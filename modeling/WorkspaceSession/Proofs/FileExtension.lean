import WorkspaceSession.Path

/-! The last name of a path and its extension, said of the text of the path. What trails behind the
name, slashes and single dots, is passed over. -/
namespace WorkspaceSession.Path

/-- Slashes behind a name, and single dots between or behind them. -/
inductive Trailing : List Char → Prop where
  | done : Trailing []
  | slash {rest : List Char} (trailing : Trailing rest) : Trailing ('/' :: rest)
  | dot {rest : List Char} (trailing : Trailing rest) : Trailing ('/' :: '.' :: rest)

def Leading (front : List Char) : Prop := front = [] ∨ ∃ dir, front = dir ++ ['/']

/-- The name is the last segment of the path that is not empty and no single dot. -/
def EndsIn (path name : List Char) : Prop :=
  (∃ front tail, path = front ++ name ++ tail ∧ Leading front ∧ Trailing tail) ∧
    '/' ∉ name ∧ name ≠ [] ∧ name ≠ ['.']

/-- The last name has something in front of its last dot, and the extension behind it. -/
def HasExtension (path extension : List Char) : Prop :=
  ∃ stem, EndsIn path (stem ++ '.' :: extension) ∧ stem ≠ [] ∧ '.' ∉ extension ∧
    stem ++ '.' :: extension ≠ ['.', '.']

theorem hasExtension_append {front stem extension tail : List Char} (hfront : Leading front)
    (htail : Trailing tail) (hstem : stem ≠ []) (hstemSlash : '/' ∉ stem)
    (hne : extension ≠ []) (hdot : '.' ∉ extension) (hslash : '/' ∉ extension) :
    HasExtension (front ++ (stem ++ '.' :: extension) ++ tail) extension := by
  have hlength : 3 ≤ (stem ++ '.' :: extension).length := by
    have hstemLength := List.length_pos_iff.mpr hstem
    have hextensionLength := List.length_pos_iff.mpr hne
    rw [List.length_append, List.length_cons]
    omega
  refine ⟨stem, ⟨⟨front, tail, rfl, hfront, htail⟩, ?_, ?_, ?_⟩, hstem, hdot, ?_⟩
  · simp [hstemSlash, hslash]
  all_goals
    intro heq
    rw [heq] at hlength
    contradiction

theorem isBlankSegment_eq_false_iff {segment : List Char} :
    isBlankSegment segment = false ↔ segment ≠ [] ∧ segment ≠ ['.'] := by
  simp [isBlankSegment]

theorem Trailing.isBlankSegment {tail : List Char} (h : Trailing tail) :
    (∀ segment ∈ Text.pieces '/' tail, Path.isBlankSegment segment = true) ∧
      ∀ segment ∈ Text.pieces '/' ('.' :: tail), Path.isBlankSegment segment = true := by
  induction h with
  | done => exact ⟨by decide, by decide⟩
  | slash trailing ih =>
    refine ⟨List.forall_mem_cons.mpr ⟨rfl, ih.1⟩, List.forall_mem_cons.mpr ⟨rfl, ih.1⟩⟩
  | dot trailing ih =>
    refine ⟨List.forall_mem_cons.mpr ⟨rfl, ih.2⟩, List.forall_mem_cons.mpr ⟨rfl, ih.2⟩⟩

theorem trailing_of_blank {segments : List (List Char)}
    (h : ∀ segment ∈ segments, isBlankSegment segment = true) :
    Trailing (segments.flatMap ('/' :: ·)) := by
  induction segments with
  | nil => exact .done
  | cons segment segments ih =>
    obtain ⟨hsegment, hsegments⟩ := List.forall_mem_cons.mp h
    have htrailing := ih hsegments
    simp only [isBlankSegment, Bool.or_eq_true, decide_eq_true_eq] at hsegment
    rcases hsegment with rfl | rfl
    · exact .slash htrailing
    · exact .dot htrailing

theorem leading_flatMap (segments : List (List Char)) :
    Leading (segments.flatMap (· ++ ['/'])) := by
  rcases segments.eq_nil_or_concat with rfl | ⟨before, last, rfl⟩
  · exact .inl rfl
  · right
    refine ⟨before.flatMap (· ++ ['/']) ++ last, ?_⟩
    simp

theorem pieces_of_leading {front : List Char} (h : Leading front) (rest : List Char) :
    ∃ before, Text.pieces '/' (front ++ rest) = before ++ Text.pieces '/' rest := by
  rcases h with rfl | ⟨dir, rfl⟩
  · exact ⟨[], rfl⟩
  · refine ⟨Text.pieces '/' dir, ?_⟩
    rw [List.append_assoc, List.singleton_append, Text.pieces_append_sep]

theorem pieces_of_trailing {name tail : List Char} (hname : '/' ∉ name) (htail : Trailing tail) :
    ∃ after, Text.pieces '/' (name ++ tail) = name :: after ∧
      ∀ segment ∈ after, isBlankSegment segment = true := by
  cases htail with
  | done =>
    refine ⟨[], ?_, by simp⟩
    rw [List.append_nil, Text.pieces_of_not_mem hname]
  | slash trailing => exact ⟨_, Text.pieces_append_cons hname, trailing.isBlankSegment.1⟩
  | dot trailing => exact ⟨_, Text.pieces_append_cons hname, trailing.isBlankSegment.2⟩

theorem endsIn_iff {path name : List Char} :
    EndsIn path name ↔
      (Text.pieces '/' path).reverse.find? (fun segment => !isBlankSegment segment) =
        some name := by
  rw [List.find?_eq_some_iff_append]
  simp only [Bool.not_eq_true', Bool.not_not]
  constructor
  · rintro ⟨⟨front, tail, rfl, hfront, htail⟩, hslash, hnames⟩
    obtain ⟨before, hbefore⟩ := pieces_of_leading hfront (name ++ tail)
    obtain ⟨after, hafter, hblank⟩ := pieces_of_trailing hslash htail
    refine ⟨isBlankSegment_eq_false_iff.mpr hnames, after.reverse, before.reverse, ?_, ?_⟩
    · rw [List.append_assoc, hbefore, hafter]
      simp
    · simpa using hblank
  · rintro ⟨hname, after, before, hpieces, hblank⟩
    have hpieces : Text.pieces '/' path = before.reverse ++ name :: after.reverse := by
      rw [← List.reverse_reverse (Text.pieces '/' path), hpieces]
      simp
    have hmem : name ∈ Text.pieces '/' path := by simp [hpieces]
    have htrailing : Trailing (after.reverse.flatMap ('/' :: ·)) :=
      trailing_of_blank (by simpa using hblank)
    refine ⟨⟨_, _, ?_, leading_flatMap before.reverse, htrailing⟩,
      Text.not_mem_of_mem_pieces hmem, isBlankSegment_eq_false_iff.mp hname⟩
    rw [← Text.glue_append_cons, ← hpieces, Text.glue_pieces]

theorem head?_dropWhile (p : α → Bool) (as : List α) :
    (as.dropWhile p).head? = as.find? fun a => !p a := by
  induction as with
  | nil => rfl
  | cons a as ih =>
    cases h : p a with
    | true => rw [List.dropWhile_cons_of_pos h, List.find?_cons_of_neg (by simp [h]), ih]
    | false =>
      rw [List.dropWhile_cons_of_neg (by simp [h]), List.find?_cons_of_pos (by simp [h])]
      rfl

theorem head?_backSegments (path : List Char) :
    (backSegments (splitHead path).2).head? =
      (Text.pieces '/' path).reverse.find? fun segment => !isBlankSegment segment := by
  unfold backSegments
  rw [head?_dropWhile]
  unfold splitHead
  split <;> simp [Text.pieces, List.find?_append, isBlankSegment]

theorem fileName?_eq_some_iff {path : String} {name : List Char} :
    fileName? path = some name ↔ EndsIn path.toList name ∧ name ≠ ['.', '.'] := by
  rw [endsIn_iff, ← head?_backSegments]
  unfold fileName?
  cases backSegments (splitHead path.toList).2 with
  | nil => simp
  | cons segment rest =>
    simp only [List.head?_cons, Option.some_inj]
    split
    · next h =>
      simp only [reduceCtorEq, false_iff, not_and]
      rintro rfl hother
      exact hother h
    · next h =>
      rw [Option.some_inj]
      constructor
      · rintro rfl
        exact ⟨rfl, h⟩
      · exact And.left

theorem extension?_of_hasExtension {path : String} {extension : List Char}
    (h : HasExtension path.toList extension) : extension? path = some (.ofList extension) := by
  obtain ⟨stem, ends, hstem, hdot, hname⟩ := h
  have hbehind : ∀ c ∈ extension.reverse, decide (c ≠ '.') = true := by
    intro c hc
    rw [decide_eq_true_eq]
    rintro rfl
    exact hdot (List.mem_reverse.mp hc)
  have hreverse :
      (stem ++ '.' :: extension).reverse = extension.reverse ++ '.' :: stem.reverse := by
    simp
  unfold extension?
  rw [fileName?_eq_some_iff.mpr ⟨ends, hname⟩]
  simp only [Option.bind_eq_bind, Option.bind_some, hreverse]
  rw [List.dropWhile_append_of_pos hbehind, List.takeWhile_append_of_pos hbehind]
  simp [hstem]

theorem hasExtension_of_extension? {path extension : String}
    (h : extension? path = some extension) : HasExtension path.toList extension.toList := by
  unfold extension? at h
  simp only [Option.bind_eq_bind, Option.bind_eq_some_iff] at h
  obtain ⟨name, hname, h⟩ := h
  obtain ⟨ends, hdots⟩ := fileName?_eq_some_iff.mp hname
  split at h
  · cases h
  · next hstem =>
    obtain rfl := Option.some.inj h
    have hsplit := List.takeWhile_append_dropWhile (p := (· ≠ '.')) (l := name.reverse)
    have hhead := List.head?_dropWhile_not (· ≠ '.') name.reverse
    have hdot : '.' ∉ (name.reverse.takeWhile (· ≠ '.')).reverse := by
      intro hmem
      have hall := List.all_eq_true.mp List.all_takeWhile '.' (List.mem_reverse.mp hmem)
      simp at hall
    cases hrest : name.reverse.dropWhile (· ≠ '.') with
    | nil =>
      rw [hrest] at hstem
      exact absurd rfl hstem
    | cons c stem =>
      rw [hrest] at hstem hsplit hhead
      obtain rfl : c = '.' := by simpa using hhead
      have hwhole := congrArg List.reverse hsplit
      rw [List.reverse_append, List.reverse_cons, List.reverse_reverse, List.append_assoc,
        List.singleton_append] at hwhole
      rw [String.toList_ofList]
      refine ⟨stem.reverse, ?_, by simpa using hstem, hdot, ?_⟩
      · rwa [hwhole]
      · rwa [hwhole]

theorem extension?_eq_some_iff {path extension : String} :
    extension? path = some extension ↔ HasExtension path.toList extension.toList := by
  constructor
  · exact hasExtension_of_extension?
  · intro h
    rw [extension?_of_hasExtension h, String.ofList_toList]

end WorkspaceSession.Path
