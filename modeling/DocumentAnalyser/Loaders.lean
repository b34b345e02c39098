import DocumentAnalyser.Value

/-!
# Documents

A `Document` is the path the loader was given, as `Path(path)` prints it, and the text it
extracted. `Path` normalizes a path as it is built (repeated slashes and `.` components go), and
building it again changes nothing. Extraction itself (a text file decoded, a PDF's page texts
joined) is the loader's business and stands here as a `FileSystem`: for each normalized path,
whether it is missing, whether `Path.exists()` raises for it, or the text the loader extracts,
or the `OSError` reading it raises. `concatenate_documents` and the joined names are what every
prompt is built from.
-/

namespace DocumentAnalyser

set_option autoImplicit false

/-! ## Paths -/

/-- The components `Path(p)` keeps: those between slashes, other than empty ones and `.`. -/
def pathParts (p : List Char) : List (List Char) :=
  (p.splitOn '/').filter fun c => c != [] && c != ['.']

/-- The root `Path(p)` keeps: `//` for exactly two leading slashes, `/` for one or for three and
more. -/
def pathRoot : List Char → List Char
  | '/' :: '/' :: '/' :: _ => ['/']
  | '/' :: '/' :: _ => ['/', '/']
  | '/' :: _ => ['/']
  | _ => []

/-- `Path(p)` on POSIX, over the characters of `p`: its root, then its components joined by
single slashes, or `.` when both are empty. -/
def normalizeChars (p : List Char) : List Char :=
  let s := pathRoot p ++ ['/'].intercalate (pathParts p)
  if s = [] then ['.'] else s

/-- `str(Path(p))`. -/
def normalizePath (p : String) : String := ⟨normalizeChars p.data⟩

example : normalizePath "a//./b/" = "a/b" ∧ normalizePath "//a" = "//a" ∧
    normalizePath "///a/." = "/a" ∧ normalizePath "./" = "." := by decide

theorem slash_not_mem_of_mem_splitOn : ∀ {xs l : List Char}, l ∈ xs.splitOn '/' → '/' ∉ l
  | [], l, h => by simp_all [List.splitOn, List.splitOnP_nil]
  | x :: xs, l, h => by
    simp only [List.splitOn, List.splitOnP_cons] at h
    split at h
    · rcases List.mem_cons.mp h with rfl | h
      · simp
      · exact slash_not_mem_of_mem_splitOn h
    · rename_i hx
      obtain ⟨hd, tl, hsplit⟩ := List.exists_cons_of_ne_nil (List.splitOnP_ne_nil (· == '/') xs)
      rw [hsplit, List.modifyHead_cons] at h
      have hmem : ∀ l ∈ xs.splitOn '/', '/' ∉ l := fun l hl => slash_not_mem_of_mem_splitOn hl
      simp only [List.splitOn, hsplit] at hmem
      rcases List.mem_cons.mp h with rfl | h
      · simp only [beq_iff_eq] at hx
        simpa [Ne.symm hx] using hmem hd (List.mem_cons_self _ _)
      · exact hmem l (List.mem_cons_of_mem _ h)

theorem pathParts_slash_cons (xs : List Char) : pathParts ('/' :: xs) = pathParts xs := by
  simp [pathParts, List.splitOn]

theorem pathParts_intercalate (p : List Char) :
    pathParts (['/'].intercalate (pathParts p)) = pathParts p := by
  by_cases hnil : pathParts p = []
  · rw [hnil]; rfl
  · have hslash : ∀ l ∈ pathParts p, '/' ∉ l :=
      fun l hl => slash_not_mem_of_mem_splitOn (List.mem_filter.mp hl).1
    rw [pathParts, List.splitOn_intercalate _ '/' hslash hnil]
    simp [pathParts, List.filter_filter]

theorem pathRoot_cases (p : List Char) :
    pathRoot p = [] ∨ pathRoot p = ['/'] ∨ pathRoot p = ['/', '/'] := by
  unfold pathRoot
  split <;> simp

theorem pathRoot_append {r body : List Char}
    (hr : r = [] ∨ r = ['/'] ∨ r = ['/', '/']) (hbody : body.head? ≠ some '/') :
    pathRoot (r ++ body) = r := by
  rcases hr with rfl | rfl | rfl <;> cases body with
  | nil => rfl
  | cons c rest =>
    simp only [List.head?_cons, ne_eq, Option.some.injEq] at hbody
    simp [pathRoot, hbody]

theorem head?_intercalate_pathParts (p : List Char) :
    (['/'].intercalate (pathParts p)).head? ≠ some '/' := by
  match h : pathParts p with
  | [] => simp [List.intercalate]
  | l :: rest =>
    have hl : l ∈ pathParts p := h ▸ List.mem_cons_self _ _
    have hne : l ≠ [] := (by simpa using (List.mem_filter.mp hl).2 : l ≠ [] ∧ l ≠ ['.']).1
    have hslash := slash_not_mem_of_mem_splitOn (List.mem_filter.mp hl).1
    obtain ⟨c, cs, rfl⟩ := List.exists_cons_of_ne_nil hne
    have hc : c ≠ '/' := fun hc => hslash (hc ▸ List.mem_cons_self _ _)
    cases rest <;> simp [List.intercalate, List.intersperse_cons_cons, hc]

theorem pathParts_root_append (p body : List Char) :
    pathParts (pathRoot p ++ body) = pathParts body := by
  rcases pathRoot_cases p with h | h | h <;> simp [h, pathParts_slash_cons]

theorem normalizeChars_idem (p : List Char) :
    normalizeChars (normalizeChars p) = normalizeChars p := by
  by_cases hs : pathRoot p ++ ['/'].intercalate (pathParts p) = []
  · simp only [normalizeChars, hs, if_true]
    rfl
  · have hp : normalizeChars p = pathRoot p ++ ['/'].intercalate (pathParts p) := if_neg hs
    rw [hp, normalizeChars, pathRoot_append (pathRoot_cases p) (head?_intercalate_pathParts p),
      pathParts_root_append, pathParts_intercalate, if_neg hs]

/-- `Path(Path(p))` is `Path(p)`. -/
theorem normalizePath_idem (p : String) : normalizePath (normalizePath p) = normalizePath p :=
  congrArg String.mk (normalizeChars_idem p.data)

/-! ## Documents -/

/-- `Path(p).name` for the normalized text `p = str(path)`: the last component, empty for the
root and for `.`. -/
def pathName (p : String) : String :=
  match (p.splitOn "/").getLast? with
  | some "." => ""
  | some n => n
  | none => ""

/-- `Path(p).suffix`: the name from its last dot, when that dot is neither first nor last. -/
def pathSuffix (p : String) : String :=
  match (pathName p).splitOn "." with
  | [] | [_] => ""
  | parts =>
    let ext := parts.getLast?.getD ""
    if ext = "" || (pathName p).length = ext.length + 1 then "" else "." ++ ext

structure Document where
  /-- `str(Path(path))` for the path the loader was given. -/
  path : String
  content : String
  deriving DecidableEq, Repr

namespace Document

/-- `doc.name`, the display name. -/
def name (doc : Document) : String := pathName doc.path

end Document

/-- Join multiple documents into one prompt-friendly string. -/
def concatenateDocuments (documents : List Document) : String :=
  pyStrip ("\n".intercalate (documents.map fun doc =>
    "### Document: " ++ doc.name ++ "\n" ++ pyStrip doc.content ++ "\n"))

/-- `", ".join(doc.name for doc in documents)`. -/
def sourceNames (documents : List Document) : String := ", ".intercalate (documents.map Document.name)

/-- What the file system answers for a normalized path. -/
inductive PathStatus where
  /-- `Path.exists()` is false. -/
  | missing
  /-- `Path.exists()` raises: before Python 3.13 it swallows only the `OSError`s `ENOENT`,
  `ENOTDIR`, `EBADF` and `ELOOP` of its `stat` call. -/
  | statError (msg : String)
  /-- The path exists; the loader extracts its text, or reading it raises an `OSError`. -/
  | present (read : Except String String)

/-- The status of each path, by `str(Path(path))`. -/
def FileSystem := String → PathStatus

/-- `Path(path).exists()`. -/
def pathExists (fs : FileSystem) (path : String) : Except PyError Bool :=
  match fs (normalizePath path) with
  | .missing => .ok false
  | .statError msg => .error (.osError msg)
  | .present _ => .ok true

/-- Dispatch to the appropriate loader on `Path(path)`: a missing path raises
`FileNotFoundError` naming it, and the existence test and the read raise their `OSError`s. -/
def loadAnyDocument (fs : FileSystem) (path : String) : Except PyError Document :=
  let target := normalizePath path
  match fs target with
  | .missing => .error (.fileNotFoundError s!"Document not found: {target}")
  | .statError msg => .error (.osError msg)
  | .present (.ok content) => .ok ⟨target, content⟩
  | .present (.error msg) => .error (.osError msg)

/-- `DocumentLoader.load`: the documents of `paths`, in order, or the first failing path's error. -/
def loadDocuments (fs : FileSystem) : List String → Except PyError (List Document)
  | [] => .ok []
  | path :: paths =>
    match loadAnyDocument fs path, loadDocuments fs paths with
    | .ok doc, .ok docs => .ok (doc :: docs)
    | .error e, _ => .error e
    | .ok _, .error e => .error e

theorem loadDocuments_map_normalizePath (fs : FileSystem) :
    ∀ paths : List String, loadDocuments fs (paths.map normalizePath) = loadDocuments fs paths
  | [] => rfl
  | path :: paths => by
    simp only [List.map_cons, loadDocuments, loadAnyDocument, normalizePath_idem,
      loadDocuments_map_normalizePath fs paths]

end DocumentAnalyser
