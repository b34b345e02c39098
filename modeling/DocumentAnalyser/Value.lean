import Mathlib.Data.List.Basic
import Mathlib.Data.List.Nodup

/-!
# Python values of the document analyser

The analyser and the evidence store handle only what `json.loads` returns and what they build
from it: `None`, booleans, numbers, strings, lists and dicts, whose keys keep their insertion
order. `Json` is such a value, and the definitions below are the Python operations the source
applies to one: `x or y`, `d.get(k)`, a dict display, `v in (None, {}, [])`, `str` and `repr`.
`PyError` names the exceptions that can leave the modelled code.
-/

namespace DocumentAnalyser

set_option autoImplicit false

/-- The exceptions the modelled functions raise or let through, with their messages. -/
inductive PyError where
  | valueError (msg : String)
  | nameError (msg : String)
  | attributeError (msg : String)
  | typeError (msg : String)
  | zeroDivisionError (msg : String)
  /-- `json.JSONDecodeError` escaping from `response.json()`. -/
  | jsonDecodeError
  | fileNotFoundError (msg : String)
  /-- Any other `OSError` of the file system, such as a failed `stat` or read. -/
  | osError (msg : String)
  /-- What `httpx` raises for a request on a closed client. -/
  | runtimeError (msg : String)
  | evidenceStoreError (msg : String)
  deriving DecidableEq, Repr

/-- A number as `json.loads` returns it: an `int`, or a `float` kept as its decimal digits
`mantissa * 10 ^ exponent`, or one of the constants `NaN`, `Infinity`, `-Infinity` that Python's
decoder also accepts. -/
inductive JsonNumber where
  | int (value : Int)
  | float (mantissa : Int) (exponent : Int)
  | nan
  | infinity (negative : Bool)
  deriving DecidableEq, Repr

/-- A decoded JSON value; an object is a dict, its fields in insertion order. -/
inductive Json where
  | null
  | bool (value : Bool)
  | num (value : JsonNumber)
  | str (value : String)
  | arr (elems : List Json)
  | obj (fields : List (String × Json))
  deriving Repr, Inhabited

namespace Json

mutual
/-- Equality of values is decidable; `deriving` does not reach through the nested lists. -/
def decEq : (a b : Json) → Decidable (a = b)
  | null, null => isTrue rfl
  | bool x, bool y => if h : x = y then isTrue (h ▸ rfl) else isFalse fun e => h (bool.inj e)
  | num x, num y => if h : x = y then isTrue (h ▸ rfl) else isFalse fun e => h (num.inj e)
  | str x, str y => if h : x = y then isTrue (h ▸ rfl) else isFalse fun e => h (str.inj e)
  | arr xs, arr ys =>
    match decEqElems xs ys with
    | isTrue h => isTrue (h ▸ rfl)
    | isFalse h => isFalse fun e => h (arr.inj e)
  | obj xs, obj ys =>
    match decEqFields xs ys with
    | isTrue h => isTrue (h ▸ rfl)
    | isFalse h => isFalse fun e => h (obj.inj e)
  | null, bool _ | null, num _ | null, str _ | null, arr _ | null, obj _
  | bool _, null | bool _, num _ | bool _, str _ | bool _, arr _ | bool _, obj _
  | num _, null | num _, bool _ | num _, str _ | num _, arr _ | num _, obj _
  | str _, null | str _, bool _ | str _, num _ | str _, arr _ | str _, obj _
  | arr _, null | arr _, bool _ | arr _, num _ | arr _, str _ | arr _, obj _
  | obj _, null | obj _, bool _ | obj _, num _ | obj _, str _ | obj _, arr _ => isFalse nofun

def decEqElems : (xs ys : List Json) → Decidable (xs = ys)
  | [], [] => isTrue rfl
  | [], _ :: _ | _ :: _, [] => isFalse nofun
  | x :: xs, y :: ys =>
    match decEq x y, decEqElems xs ys with
    | isTrue h, isTrue t => isTrue (h ▸ t ▸ rfl)
    | isFalse h, _ => isFalse fun e => h (List.cons.inj e).1
    | _, isFalse t => isFalse fun e => t (List.cons.inj e).2

def decEqFields : (xs ys : List (String × Json)) → Decidable (xs = ys)
  | [], [] => isTrue rfl
  | [], _ :: _ | _ :: _, [] => isFalse nofun
  | (k, x) :: xs, (l, y) :: ys =>
    if hk : k = l then
      match decEq x y, decEqFields xs ys with
      | isTrue h, isTrue t => isTrue (hk ▸ h ▸ t ▸ rfl)
      | isFalse h, _ => isFalse fun e => h (Prod.mk.inj (List.cons.inj e).1).2
      | _, isFalse t => isFalse fun e => t (List.cons.inj e).2
    else isFalse fun e => hk (Prod.mk.inj (List.cons.inj e).1).1
end

instance : DecidableEq Json := decEq

end Json

/-! ## Python strings -/

/-- The characters `str.isspace` accepts, which `str.strip()` removes. -/
def isPySpace (c : Char) : Bool :=
  let n := c.toNat
  (9 ≤ n && n ≤ 13) || (28 ≤ n && n ≤ 32) || n == 0x85 || n == 0xa0 || n == 0x1680 ||
    (0x2000 ≤ n && n ≤ 0x200a) || n == 0x2028 || n == 0x2029 || n == 0x202f ||
    n == 0x205f || n == 0x3000

/-- `s.strip()`. -/
def pyStrip (s : String) : String :=
  String.mk ((s.toList.dropWhile isPySpace).reverse.dropWhile isPySpace).reverse

/-- `s.lower()` on ASCII letters. No other character lowers to a letter of the words
`_parse_bool` compares with, so its comparisons come out as in Python. -/
def pyLower (s : String) : String := String.mk (s.toList.map Char.toLower)

/-- Two lowercase hex digits, as in the `\xNN` escapes of `repr`. -/
def hexByte (n : Nat) : String :=
  String.mk [Nat.digitChar (n / 16 % 16), Nat.digitChar (n % 16)]

/-- One character of a string's `repr` quoted with `quote`. Control characters, DEL, the C1
range, the no-break space and the soft hyphen are escaped; other non-printable code points are
written as they are. -/
def reprChar (quote c : Char) : String :=
  if c = quote || c = '\\' then String.mk ['\\', c]
  else if c = '\t' then "\\t"
  else if c = '\n' then "\\n"
  else if c = '\r' then "\\r"
  else if c.toNat < 0x20 || (0x7f ≤ c.toNat && c.toNat ≤ 0xa0) || c.toNat == 0xad then
    "\\x" ++ hexByte c.toNat
  else c.toString

/-- `repr` of a `str`: single quotes, unless the text holds a single quote and no double one. -/
def reprString (s : String) : String :=
  let quote := if s.toList.contains '\'' && !s.toList.contains '"' then '"' else '\''
  quote.toString ++ String.join (s.toList.map (reprChar quote)) ++ quote.toString

namespace JsonNumber

/-- Whether `float()` of the decimal `mantissa * 10 ^ exponent` is not `0.0`. The conversion rounds
to the nearest binary64, so it gives zero exactly when the value is at most half the smallest
subnormal, `2 ^ -1075`, which lies between `10 ^ -324` and `10 ^ -323`; with `d` digits in the
mantissa the value lies in `[10 ^ (d + exponent - 1), 10 ^ (d + exponent))`. -/
def floatIsNonzero (mantissa exponent : Int) : Bool :=
  let d : Int := (toString mantissa.natAbs).length
  mantissa != 0 &&
    (decide (-323 < d + exponent) ||
      decide (d + exponent = -323) && decide (Nat.pow 10 (-exponent).toNat < mantissa.natAbs * Nat.pow 2 1075))

/-- The text Python prints for the number: an `int` in decimal; a `float` by its decoded digits
and exponent (Python prints the shortest round-trip form instead). -/
def render : JsonNumber → String
  | int n => toString n
  | float m e => toString m ++ "e" ++ toString e
  | nan => "nan"
  | infinity false => "inf"
  | infinity true => "-inf"

end JsonNumber

namespace Json

/-! ## Python operations on values -/

/-- `bool(x)`. -/
def truthy : Json → Bool
  | null => false
  | bool b => b
  | num (.int n) => n != 0
  | num (.float m e) => JsonNumber.floatIsNonzero m e
  | num _ => true
  | str s => s != ""
  | arr elems => !elems.isEmpty
  | obj fields => !fields.isEmpty

/-- `x or y`. -/
def or (x y : Json) : Json := if x.truthy then x else y

/-- `type(x).__name__`. -/
def typeName : Json → String
  | null => "NoneType"
  | bool _ => "bool"
  | num (.int _) => "int"
  | num _ => "float"
  | str _ => "str"
  | arr _ => "list"
  | obj _ => "dict"

/-- The `AttributeError` of looking up `attr` on a value that is not a dict. -/
def noAttribute (x : Json) (attr : String) : PyError :=
  let t := x.typeName
  .attributeError s!"'{t}' object has no attribute '{attr}'"

/-- `x.get(key)`: the value under `key` or `None` on a dict, `AttributeError` on anything else. -/
def get (x : Json) (key : String) : Except PyError Json :=
  match x with
  | obj fields => .ok ((fields.lookup key).getD null)
  | _ => .error (x.noAttribute "get")

/-- `v in (None, {}, [])`, the test `_strip_none` applies to each value. -/
def isPlaceholder : Json → Bool
  | null => true
  | arr [] => true
  | obj [] => true
  | _ => false

/-- `d[key] = v` on a dict's fields: a present key keeps its place and takes the new value, a
new key goes last. -/
def setField : List (String × Json) → String → Json → List (String × Json)
  | [], key, v => [(key, v)]
  | (k, w) :: rest, key, v => if k = key then (key, v) :: rest else (k, w) :: setField rest key v

/-- A dict display `{k₁: v₁, k₂: v₂, …}`: the entries are stored one after another, so a
repeated key keeps its first place and its last value. -/
def dictOf (entries : List (String × Json)) : Json :=
  obj (entries.foldl (fun d e => setField d e.1 e.2) [])

mutual
/-- `repr(x)`. -/
def pyRepr : Json → String
  | null => "None"
  | bool true => "True"
  | bool false => "False"
  | num n => n.render
  | str s => reprString s
  | arr elems => "[" ++ reprElems elems ++ "]"
  | obj fields => "\x7b" ++ reprFields fields ++ "\x7d"

/-- The elements of a list display, separated by `", "`. -/
def reprElems : List Json → String
  | [] => ""
  | [x] => pyRepr x
  | x :: rest => pyRepr x ++ ", " ++ reprElems rest

/-- The entries of a dict display, `'key': value`, separated by `", "`. -/
def reprFields : List (String × Json) → String
  | [] => ""
  | [(k, v)] => reprString k ++ ": " ++ pyRepr v
  | (k, v) :: rest => reprString k ++ ": " ++ pyRepr v ++ ", " ++ reprFields rest
end

/-- `str(x)`, what an f-string writes for `x`: a string is itself, anything else its `repr`. -/
def pyStr : Json → String
  | str s => s
  | x => x.pyRepr

@[simp] theorem or_of_truthy {x : Json} (h : x.truthy = true) (y : Json) : x.or y = x := by
  simp [Json.or, h]

@[simp] theorem or_of_not_truthy {x : Json} (h : x.truthy = false) (y : Json) : x.or y = y := by
  simp [Json.or, h]

@[simp] theorem get_obj (fields : List (String × Json)) (key : String) :
    (obj fields).get key = .ok ((fields.lookup key).getD null) := rfl

theorem get_error {x : Json} {key : String} {e : PyError} (h : x.get key = .error e) :
    e = x.noAttribute "get" := by
  cases x <;> cases h <;> rfl

theorem get_of_not_obj {x : Json} (key : String) (hx : ∀ fields, x ≠ obj fields) :
    x.get key = .error (x.noAttribute "get") := by
  cases x <;> first | rfl | exact absurd rfl (hx _)

theorem isPlaceholder_iff (x : Json) : x.isPlaceholder = true ↔ x = null ∨ x = arr [] ∨ x = obj [] := by
  cases x with
  | arr elems => cases elems <;> simp [isPlaceholder]
  | obj fields => cases fields <;> simp [isPlaceholder]
  | _ => simp [isPlaceholder]

theorem isPlaceholder_of_truthy {x : Json} (h : x.truthy = true) : x.isPlaceholder = false := by
  cases x with
  | arr elems => cases elems <;> simp_all [truthy, isPlaceholder]
  | obj fields => cases fields <;> simp_all [truthy, isPlaceholder]
  | _ => simp_all [truthy, isPlaceholder]

theorem isPlaceholder_or_str (x : Json) (s : String) : (x.or (.str s)).isPlaceholder = false := by
  unfold Json.or
  split
  · exact isPlaceholder_of_truthy ‹_›
  · rfl

theorem lookup_cons_of_ne {k k' : String} (v : Json) (rest : List (String × Json)) (h : k ≠ k') :
    ((k', v) :: rest).lookup k = rest.lookup k := by
  simp [List.lookup_cons, beq_false_of_ne h]

@[simp] theorem lookup_setField_self (d : List (String × Json)) (k : String) (v : Json) :
    (setField d k v).lookup k = some v := by
  induction d with
  | nil => simp [setField]
  | cons kw rest ih =>
    obtain ⟨k', w⟩ := kw
    by_cases h : k' = k
    · simp [setField, h]
    · simp [setField, h, ih, lookup_cons_of_ne _ _ (Ne.symm h)]

theorem lookup_setField_of_ne (d : List (String × Json)) {k k' : String} (v : Json)
    (h : k' ≠ k) : (setField d k' v).lookup k = d.lookup k := by
  induction d with
  | nil => simp [setField, lookup_cons_of_ne _ _ (Ne.symm h)]
  | cons kw rest ih =>
    obtain ⟨k'', w⟩ := kw
    by_cases h' : k'' = k'
    · subst h'; simp [setField, lookup_cons_of_ne _ _ (Ne.symm h)]
    · by_cases hk : k = k'' <;> simp [setField, h', ih, hk, lookup_cons_of_ne]

theorem lookup_setField_isSome (d : List (String × Json)) {k k' : String} (v : Json)
    (h : (d.lookup k).isSome) : ((setField d k' v).lookup k).isSome := by
  by_cases hk : k' = k
  · simp [hk]
  · rwa [lookup_setField_of_ne _ _ hk]

theorem map_fst_setField (d : List (String × Json)) (k : String) (v : Json) :
    (setField d k v).map Prod.fst =
      if k ∈ d.map Prod.fst then d.map Prod.fst else d.map Prod.fst ++ [k] := by
  induction d with
  | nil => simp [setField]
  | cons kw rest ih =>
    obtain ⟨k', w⟩ := kw
    by_cases h : k' = k
    · subst h; simp [setField]
    · simp only [setField, if_neg h, List.map_cons, ih, List.mem_cons, Ne.symm h, false_or]
      split <;> simp

@[simp] theorem keys_setField_nodup (d : List (String × Json)) (k : String) (v : Json) :
    ((setField d k v).map Prod.fst).Nodup ↔ (d.map Prod.fst).Nodup := by
  rw [map_fst_setField]
  split
  · rfl
  · exact ⟨fun h => h.sublist (List.sublist_append_left _ _), fun h => by simpa using h.concat ‹_›⟩

theorem setField_ne_nil (d : List (String × Json)) (k : String) (v : Json) :
    setField d k v ≠ [] := by
  cases d with
  | nil => simp [setField]
  | cons kw rest => obtain ⟨k', w⟩ := kw; simp only [setField]; split <;> simp

end Json

instance decEqExcept {ε α : Type} [DecidableEq ε] [DecidableEq α] : DecidableEq (Except ε α)
  | .ok a, .ok b => decidable_of_iff (a = b) ⟨(· ▸ rfl), Except.ok.inj⟩
  | .error a, .error b => decidable_of_iff (a = b) ⟨(· ▸ rfl), Except.error.inj⟩
  | .ok _, .error _ | .error _, .ok _ => isFalse nofun

/-- A pure step that may raise, run inside a stateful computation. -/
def liftExcept {σ α : Type} : Except PyError α → EStateM PyError σ α
  | .ok a => pure a
  | .error e => throw e

@[simp] theorem liftExcept_ok {σ α : Type} (a : α) (s : σ) :
    (liftExcept (.ok a) : EStateM PyError σ α) s = .ok a s := rfl

@[simp] theorem liftExcept_error {σ α : Type} (e : PyError) (s : σ) :
    (liftExcept (.error e) : EStateM PyError σ α) s = .error e s := rfl

theorem liftExcept_eq_error {σ α : Type} {r : Except PyError α} {s s' : σ} {e : PyError}
    (h : (liftExcept r : EStateM PyError σ α) s = .error e s') : r = .error e := by
  cases r <;> cases h; rfl

/-- The state a computation ends in, whether it returned or raised. -/
def finalState {σ α : Type} : EStateM.Result PyError σ α → σ
  | .ok _ s => s
  | .error _ s => s

@[simp] theorem finalState_ok {σ α : Type} (a : α) (s : σ) :
    finalState (.ok a s : EStateM.Result PyError σ α) = s := rfl

@[simp] theorem finalState_error {σ α : Type} (e : PyError) (s : σ) :
    finalState (.error e s : EStateM.Result PyError σ α) = s := rfl

@[simp] theorem finalState_liftExcept {σ α : Type} (r : Except PyError α) (s : σ) :
    finalState ((liftExcept r : EStateM PyError σ α) s) = s := by
  cases r <;> rfl

end DocumentAnalyser
