import DocumentAnalyser.Value

/-!
# `json.loads`

The decoder CPython's `json` module runs on a model's reply and on a response body: whitespace,
the three literals and `NaN`/`Infinity`/`-Infinity`, numbers, strings with their escapes, arrays
and objects, and nothing but whitespace after the value. A malformed text raises
`json.JSONDecodeError`; an integer literal of more digits than `sys.get_int_max_str_digits()`
makes `int()` raise `ValueError` while the token is read, which is not a `JSONDecodeError`. An
object stores its members as a dict does, so a repeated key keeps its first place and its last
value. A lone surrogate `\uD800`… cannot be a Lean character and decodes to U+FFFD, and the
interpreter's nesting limit is not modelled.
-/

namespace DocumentAnalyser.Json

set_option autoImplicit false

/-- The whitespace the decoder skips between tokens. -/
def isJsonSpace (c : Char) : Bool := c = ' ' || c = '\t' || c = '\n' || c = '\r'

def skipSpace (cs : List Char) : List Char := cs.dropWhile isJsonSpace

def hexValue (c : Char) : Option Nat :=
  if '0' ≤ c && c ≤ '9' then some (c.toNat - '0'.toNat)
  else if 'a' ≤ c && c ≤ 'f' then some (c.toNat - 'a'.toNat + 10)
  else if 'A' ≤ c && c ≤ 'F' then some (c.toNat - 'A'.toNat + 10)
  else none

/-- The value of the four hex digits of a `\uXXXX` escape. -/
def hex4 (a b c d : Char) : Option Nat := do
  return (((← hexValue a) * 16 + (← hexValue b)) * 16 + (← hexValue c)) * 16 + (← hexValue d)

/-- The character a one-letter escape stands for. -/
def simpleEscape : Char → Option Char
  | '"' => some '"'
  | '\\' => some '\\'
  | '/' => some '/'
  | 'b' => some (Char.ofNat 8)
  | 'f' => some (Char.ofNat 12)
  | 'n' => some '\n'
  | 'r' => some '\r'
  | 't' => some '\t'
  | _ => none

/-- A lone surrogate, which a Lean string cannot hold, stands as U+FFFD. -/
def escapedChar (n : Nat) : Char := if 0xd800 ≤ n && n ≤ 0xdfff then '\uFFFD' else Char.ofNat n

/-- The characters decoded so far (in reverse), with a pending high surrogate written out. -/
def flushHigh : Option Nat → List Char → List Char
  | some _, acc => '\uFFFD' :: acc
  | none, acc => acc

/-- The characters of a string literal after its opening quote, collected in reverse in `acc`,
and what follows the closing quote. Unescaped control characters are refused. A `\uXXXX` high
surrogate waits in `high` for the escape right after it, and joins it when that is a low one. -/
def scanString : List Char → Option Nat → List Char → Option (String × List Char)
  | [], _, _ => none
  | '"' :: rest, high, acc => some (String.mk (flushHigh high acc).reverse, rest)
  | '\\' :: 'u' :: a :: b :: c :: d :: rest, high, acc =>
    match hex4 a b c d with
    | none => none
    | some n =>
      match high with
      | some hi =>
        if 0xdc00 ≤ n && n ≤ 0xdfff then
          scanString rest none (Char.ofNat (0x10000 + (hi - 0xd800) * 0x400 + (n - 0xdc00)) :: acc)
        else if 0xd800 ≤ n && n ≤ 0xdbff then scanString rest (some n) ('\uFFFD' :: acc)
        else scanString rest none (escapedChar n :: '\uFFFD' :: acc)
      | none =>
        if 0xd800 ≤ n && n ≤ 0xdbff then scanString rest (some n) acc
        else scanString rest none (escapedChar n :: acc)
  | '\\' :: e :: rest, high, acc =>
    match simpleEscape e with
    | some c => scanString rest none (c :: flushHigh high acc)
    | none => none
  | c :: rest, high, acc =>
    if c.toNat < 0x20 then none else scanString rest none (c :: flushHigh high acc)

/-- The longest run of ASCII digits at the front, and the rest. -/
def digits (cs : List Char) : List Char × List Char := (cs.takeWhile Char.isDigit, cs.dropWhile Char.isDigit)

def digitsValue (ds : List Char) : Nat := ds.foldl (fun n d => 10 * n + (d.toNat - '0'.toNat)) 0

/-- The integer part of a number: `0`, or a digit `1`–`9` and the digits after it. -/
def intPart : List Char → Option (List Char × List Char)
  | '0' :: rest => some (['0'], rest)
  | c :: rest => if '1' ≤ c && c ≤ '9' then some (c :: (digits rest).1, (digits rest).2) else none
  | [] => none

/-- The fraction digits after a `.` that is followed by a digit; otherwise nothing is taken. -/
def fracPart : List Char → List Char × List Char
  | '.' :: d :: rest => if d.isDigit then (d :: (digits rest).1, (digits rest).2) else ([], '.' :: d :: rest)
  | cs => ([], cs)

/-- The exponent of `e`/`E`, an optional sign and at least one digit; otherwise the decoder
backs off to before the `e`. -/
def expPart (cs : List Char) : Option Int × List Char :=
  match cs with
  | e :: rest =>
    if e = 'e' || e = 'E' then
      let (neg, body) := match rest with
        | '-' :: r => (true, r)
        | '+' :: r => (false, r)
        | r => (false, r)
      match digits body with
      | ([], _) => (none, cs)
      | (ds, after) => (some (if neg then -(digitsValue ds : Int) else digitsValue ds), after)
    else (none, cs)
  | [] => (none, cs)

/-- `sys.get_int_max_str_digits()` of a fresh interpreter; `0` lifts the limit. -/
def maxStrDigits : Nat := 4300

/-- The `ValueError` of `int()` on a decimal literal of `n` digits, over the limit `limit`. -/
def intDigitsError (limit n : Nat) : PyError :=
  .valueError s!"Exceeds the limit ({limit} digits) for integer string conversion: value has {n} digits; use sys.set_int_max_str_digits() to increase the limit"

/-- Why the decoder stops: malformed text, or an integer literal of `digits` digits over the
limit. -/
inductive DecodeFailure where
  | malformed
  | intTooLong (digits : Nat)
  deriving DecidableEq, Repr

/-- The exception each failure raises: `JSONDecodeError`, or `int()`'s `ValueError`. -/
def DecodeFailure.toPyError (limit : Nat) : DecodeFailure → PyError
  | malformed => .jsonDecodeError
  | intTooLong n => intDigitsError limit n

abbrev Scan := Except DecodeFailure (Json × List Char)

/-- The sign of a number token and the text after it. -/
def splitSign : List Char → Bool × List Char
  | '-' :: r => (true, r)
  | r => (false, r)

def applySign (negative : Bool) (n : Int) : Int := if negative then -n else n

/-- A number token: an `int` without fraction and exponent, converted by `int()` under the digit
limit, a `float` otherwise. -/
def scanNumber (limit : Nat) (cs : List Char) : Scan :=
  match intPart (splitSign cs).2 with
  | none => .error .malformed
  | some (ip, rest) =>
    match fracPart rest, expPart (fracPart rest).2 with
    | ([], _), (none, rest) =>
      if limit ≠ 0 ∧ limit < ip.length then .error (.intTooLong ip.length)
      else .ok (.num (.int (applySign (splitSign cs).1 (digitsValue ip))), rest)
    | (fp, _), (ex, rest) =>
      .ok (.num (.float (applySign (splitSign cs).1 (digitsValue (ip ++ fp)))
        (ex.getD 0 - fp.length)), rest)

mutual
/-- One value at the front of the input. Each level of nesting takes a character and at most two
units of `fuel`, so `2 * n + 2` is enough for an input of `n` characters. -/
def scanValue (limit : Nat) : Nat → List Char → Scan
  | 0, _ => .error .malformed
  | fuel + 1, cs =>
    match cs with
    | '"' :: rest =>
      match scanString rest none [] with
      | some (s, rest) => .ok (str s, rest)
      | none => .error .malformed
    | '{' :: rest =>
      match skipSpace rest with
      | '}' :: rest => .ok (obj [], rest)
      | rest => scanMembers limit fuel rest []
    | '[' :: rest =>
      match skipSpace rest with
      | ']' :: rest => .ok (arr [], rest)
      | rest => scanElements limit fuel rest []
    | 'n' :: 'u' :: 'l' :: 'l' :: rest => .ok (null, rest)
    | 't' :: 'r' :: 'u' :: 'e' :: rest => .ok (bool true, rest)
    | 'f' :: 'a' :: 'l' :: 's' :: 'e' :: rest => .ok (bool false, rest)
    | 'N' :: 'a' :: 'N' :: rest => .ok (num .nan, rest)
    | 'I' :: 'n' :: 'f' :: 'i' :: 'n' :: 'i' :: 't' :: 'y' :: rest => .ok (num (.infinity false), rest)
    | '-' :: 'I' :: 'n' :: 'f' :: 'i' :: 'n' :: 'i' :: 't' :: 'y' :: rest =>
      .ok (num (.infinity true), rest)
    | cs => scanNumber limit cs

/-- The elements of an array after `[`, collected in `acc`, up to the closing `]`. -/
def scanElements (limit : Nat) : Nat → List Char → List Json → Scan
  | 0, _, _ => .error .malformed
  | fuel + 1, cs, acc =>
    match scanValue limit fuel cs with
    | .error e => .error e
    | .ok (v, rest) =>
      match skipSpace rest with
      | ']' :: rest => .ok (arr (acc ++ [v]), rest)
      | ',' :: rest => scanElements limit fuel (skipSpace rest) (acc ++ [v])
      | _ => .error .malformed

/-- The members of an object after `{`, stored into `acc` as a dict stores them, up to `}`. -/
def scanMembers (limit : Nat) : Nat → List Char → List (String × Json) → Scan
  | 0, _, _ => .error .malformed
  | fuel + 1, cs, acc =>
    match cs with
    | '"' :: cs =>
      match scanString cs none [] with
      | none => .error .malformed
      | some (key, rest) =>
        match skipSpace rest with
        | ':' :: rest =>
          match scanValue limit fuel (skipSpace rest) with
          | .error e => .error e
          | .ok (v, rest) =>
            match skipSpace rest with
            | '}' :: rest => .ok (obj (setField acc key v), rest)
            | ',' :: rest => scanMembers limit fuel (skipSpace rest) (setField acc key v)
            | _ => .error .malformed
        | _ => .error .malformed
    | _ => .error .malformed
end

/-- `json.loads(s)` under the integer digit limit `limit`: `JSONDecodeError` also for a leading
byte-order mark and for anything but whitespace after the value. -/
def loadsWith (limit : Nat) (s : String) : Except PyError Json :=
  match s.toList with
  | '\uFEFF' :: _ => .error .jsonDecodeError
  | cs =>
    match scanValue limit (2 * cs.length + 2) (skipSpace cs) with
    | .ok (v, rest) => if (skipSpace rest).isEmpty then .ok v else .error .jsonDecodeError
    | .error f => .error (f.toPyError limit)

/-- `json.loads(s)`. -/
def loads (s : String) : Except PyError Json := loadsWith maxStrDigits s

/-- `try: x = json.loads(s) except json.JSONDecodeError: x = fallback`: the decoder's other
exception, the `ValueError` of an over-long integer, propagates. -/
def loadsOr (fallback : Json) (s : String) : Except PyError Json :=
  match loads s with
  | .error .jsonDecodeError => .ok fallback
  | r => r

example : loads " \x7b\"requirementMet\": false, \"snippet\": \"Backups\\u0020run\"\x7d\n" =
    .ok (.obj [("requirementMet", .bool false), ("snippet", .str "Backups run")]) := by decide

example : loads "\x7b\"a\": 1,\x7d" = .error .jsonDecodeError := by decide

example : loads "[1, -2.5e3, NaN, null]" =
    .ok (.arr [.num (.int 1), .num (.float (-25) 2), .num .nan, .null]) := by decide

/-! ## What the decoder raises -/

/-- `json.loads` raises `JSONDecodeError` or the `ValueError` of an over-long integer, nothing
else. -/
theorem loads_error {s : String} {e : PyError} (h : loads s = .error e) :
    e = .jsonDecodeError ∨ ∃ n, e = intDigitsError maxStrDigits n := by
  unfold loads loadsWith at h
  split at h
  · cases h; exact .inl rfl
  · split at h
    · split at h <;> cases h; exact .inl rfl
    · cases h
      rename_i f _
      cases f
      exacts [.inl rfl, .inr ⟨_, rfl⟩]

theorem loadsOr_error {fallback : Json} {s : String} {e : PyError} (h : loadsOr fallback s = .error e) :
    ∃ n, e = intDigitsError maxStrDigits n := by
  unfold loadsOr at h
  split at h
  · cases h
  · rename_i hne
    exact (loads_error h).resolve_left fun he => hne (he ▸ h)

/-! ## A member holding a long integer -/

theorem digits_append {ds rest : List Char} (hds : ∀ c ∈ ds, c.isDigit)
    (hrest : ∀ c ∈ rest.head?, c.isDigit = false) : digits (ds ++ rest) = (ds, rest) := by
  rw [digits, List.takeWhile_append_of_pos hds, List.dropWhile_append_of_pos hds]
  cases rest with
  | nil => simp
  | cons c r => simp [List.takeWhile_cons, List.dropWhile_cons, hrest c rfl]

theorem intPart_of_nonzero {d : Char} (rest : List Char) (hd : '1' ≤ d ∧ d ≤ '9') :
    intPart (d :: rest) = some (d :: (digits rest).1, (digits rest).2) := by
  unfold intPart
  split
  · rename_i heq
    obtain ⟨rfl, -⟩ := List.cons.inj heq
    exact absurd hd.1 (by decide)
  · rename_i heq
    obtain ⟨rfl, rfl⟩ := List.cons.inj heq
    simp [hd.1, hd.2]
  · rename_i heq; cases heq

theorem splitSign_of_nonzero {d : Char} (rest : List Char) (hd : '1' ≤ d ∧ d ≤ '9') :
    splitSign (d :: rest) = (false, d :: rest) := by
  unfold splitSign
  split
  · rename_i heq
    obtain ⟨rfl, -⟩ := List.cons.inj heq
    exact absurd hd.1 (by decide)
  · rfl

theorem scanNumber_int (limit : Nat) {d : Char} {ds : List Char} (r : List Char)
    (hd : '1' ≤ d ∧ d ≤ '9') (hds : ∀ c ∈ ds, c.isDigit) :
    scanNumber limit (d :: (ds ++ '}' :: r)) =
      if limit ≠ 0 ∧ limit < ds.length + 1 then .error (.intTooLong (ds.length + 1))
      else .ok (.num (.int (digitsValue (d :: ds))), '}' :: r) := by
  have hdig : digits (ds ++ '}' :: r) = (ds, '}' :: r) := digits_append hds (by simp)
  simp only [scanNumber, splitSign_of_nonzero _ hd, intPart_of_nonzero _ hd, hdig]
  rfl

/-- `json.loads` of the object `{"a": 1…}` whose one member is the integer `1` followed by the
digits `ds`: the object, or the `ValueError` of `int()` when the literal is over the limit. -/
theorem loadsWith_int_member (limit : Nat) {ds : List Char} (hds : ∀ c ∈ ds, c.isDigit) :
    loadsWith limit ("\x7b\"a\": 1" ++ String.mk ds ++ "\x7d") =
      if limit ≠ 0 ∧ limit < ds.length + 1 then .error (intDigitsError limit (ds.length + 1))
      else .ok (.obj [("a", .num (.int (digitsValue ('1' :: ds))))]) := by
  have hobject : ∀ fuel, 3 ≤ fuel →
      scanValue limit fuel ('\x7b' :: '"' :: 'a' :: '"' :: ':' :: ' ' :: '1' :: (ds ++ ['\x7d'])) =
        match scanNumber limit ('1' :: (ds ++ ['\x7d'])) with
        | .error e => .error e
        | .ok (v, rest) =>
          match skipSpace rest with
          | '\x7d' :: rest => .ok (obj (setField [] "a" v), rest)
          | ',' :: rest => scanMembers limit (fuel - 2) (skipSpace rest) (setField [] "a" v)
          | _ => .error .malformed := by
    intro fuel hfuel
    obtain ⟨n, rfl⟩ := Nat.exists_eq_add_of_le' hfuel
    rfl
  show (match scanValue limit
      (2 * ('\x7b' :: '"' :: 'a' :: '"' :: ':' :: ' ' :: '1' :: (ds ++ ['\x7d'])).length + 2)
      ('\x7b' :: '"' :: 'a' :: '"' :: ':' :: ' ' :: '1' :: (ds ++ ['\x7d'])) with
    | .ok (v, rest) =>
      if (skipSpace rest).isEmpty then (.ok v : Except PyError Json) else .error .jsonDecodeError
    | .error f => .error (f.toPyError limit)) = _
  rw [hobject _ (by simp; omega), scanNumber_int limit [] (by decide) hds]
  split_ifs <;> rfl

end DocumentAnalyser.Json
