import WorkspaceSession.Text.Pieces

/-! Paths as texts: what they are made of, their ancestors, and joining. Nothing here looks at
files. -/
namespace WorkspaceSession.Path

def isBlankSegment (segment : List Char) : Bool := segment = [] || segment = ['.']

def splitHead (path : List Char) : List Char × List Char :=
  match path with
  | '/' :: rest => (['/'], rest)
  | ['.'] => (['.'], [])
  | '.' :: '/' :: rest => (['.'], '/' :: rest)
  | _ => ([], path)

/-- The segments, the last first, from the last one that names something. -/
def backSegments (body : List Char) : List (List Char) :=
  (Text.pieces '/' body).reverse.dropWhile isBlankSegment

def parentChars? (path : List Char) : Option (List Char) :=
  let (head, body) := splitHead path
  match backSegments body with
  | _ :: rest => some (head ++ Text.glue ['/'] (rest.dropWhile isBlankSegment).reverse)
  | [] => if head = ['.'] then some [] else none

/-- The path without its last segment; the root and the empty path have no parent. -/
def parent? (path : String) : Option String := (parentChars? path.toList).map String.ofList

theorem length_splitHead (path : List Char) :
    (splitHead path).1.length + (splitHead path).2.length = path.length := by
  unfold splitHead
  split <;> simp <;> omega

theorem pieces_eq_of_backSegments {body segment : List Char} {rest : List (List Char)}
    (h : backSegments body = segment :: rest) :
    segment ≠ [] ∧ ∃ blank, Text.pieces '/' body = rest.reverse ++ segment :: blank := by
  unfold backSegments at h
  constructor
  · have hnot := List.head?_dropWhile_not isBlankSegment (Text.pieces '/' body).reverse
    rw [h] at hnot
    rintro rfl
    simp [isBlankSegment] at hnot
  · have hall := List.takeWhile_append_dropWhile
      (p := isBlankSegment) (l := (Text.pieces '/' body).reverse)
    rw [h] at hall
    exact ⟨((Text.pieces '/' body).reverse.takeWhile isBlankSegment).reverse, by
      simpa using (congrArg List.reverse hall).symm⟩

theorem length_parentChars? {path parent : List Char} (h : parentChars? path = some parent) :
    parent.length < path.length := by
  have hsplit := length_splitHead path
  unfold parentChars? at h
  dsimp only at h
  split at h
  · next segment rest heq =>
    obtain ⟨hne, blank, hpieces⟩ := pieces_eq_of_backSegments heq
    have hlt := Text.length_glue_lt '/' rest.reverse blank hne
    rw [← hpieces, Text.glue_pieces] at hlt
    have hle := Text.length_glue_append ['/'] (rest.dropWhile isBlankSegment).reverse
      (rest.takeWhile isBlankSegment).reverse
    rw [← List.reverse_append, List.takeWhile_append_dropWhile] at hle
    injection h with h
    subst h
    rw [List.length_append]
    omega
  · split at h
    · next hhead =>
      injection h with h
      subst h
      simp [hhead] at hsplit ⊢
      omega
    · cases h

def ancestorsChars (path : List Char) : List (List Char) :=
  path :: match h : parentChars? path with
    | some parent =>
      have := length_parentChars? h
      ancestorsChars parent
    | none => []
termination_by path.length

def ancestors (path : String) : List String := (ancestorsChars path.toList).map String.ofList

/-- The last segment, unless it leads upwards. -/
def fileName? (path : String) : Option (List Char) :=
  match backSegments (splitHead path.toList).2 with
  | segment :: _ => if segment = ['.', '.'] then none else some segment
  | [] => none

/-- What follows the last dot of the file name, if something comes before that dot. -/
def extension? (path : String) : Option String := do
  let name ← fileName? path
  let stem := (name.reverse.dropWhile (· ≠ '.')).drop 1
  if stem = [] then none
  else some (String.ofList (name.reverse.takeWhile (· ≠ '.')).reverse)

def isAbsolute (path : String) : Bool := path.toList.head? = some '/'

def join (path child : String) : String :=
  if isAbsolute child || path = "" then child
  else if path.toList.getLast? = some '/' then path ++ child
  else path ++ "/" ++ child

end WorkspaceSession.Path
