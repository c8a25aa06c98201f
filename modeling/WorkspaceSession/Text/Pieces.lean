/-! Cutting text at a separator, and joining it again. -/
namespace WorkspaceSession.Text

/-- One piece more than there are separators; no piece holds one. -/
def pieces (sep : Char) : List Char → List (List Char)
  | [] => [[]]
  | c :: rest =>
    if c = sep then [] :: pieces sep rest
    else match pieces sep rest with
      | [] => [[c]]
      | piece :: others => (c :: piece) :: others

def glue (sep : List Char) : List (List Char) → List Char
  | [] => []
  | [piece] => piece
  | piece :: others => piece ++ sep ++ glue sep others

theorem pieces_ne_nil (sep : Char) (cs : List Char) : pieces sep cs ≠ [] := by
  cases cs with
  | nil => simp [pieces]
  | cons c rest =>
    simp only [pieces]
    split
    · simp
    · split <;> simp

@[simp] theorem glue_pieces (sep : Char) (cs : List Char) : glue [sep] (pieces sep cs) = cs := by
  induction cs with
  | nil => rfl
  | cons c rest ih =>
    simp only [pieces]
    have hne := pieces_ne_nil sep rest
    split
    · next h =>
      cases hp : pieces sep rest with
      | nil => exact absurd hp hne
      | cons p ps => rw [hp] at ih; simp [glue, ih, h]
    · cases hp : pieces sep rest with
      | nil => exact absurd hp hne
      | cons p ps =>
        rw [hp] at ih
        cases ps <;> simp_all [glue]

theorem pieces_of_not_mem {sep : Char} {cs : List Char} (h : sep ∉ cs) : pieces sep cs = [cs] := by
  induction cs with
  | nil => rfl
  | cons c cs ih =>
    rw [List.mem_cons, not_or] at h
    obtain ⟨hc, hcs⟩ := h
    simp [pieces, Ne.symm hc, ih hcs]

theorem pieces_append_sep (sep : Char) (cs rest : List Char) :
    pieces sep (cs ++ sep :: rest) = pieces sep cs ++ pieces sep rest := by
  induction cs with
  | nil => simp [pieces]
  | cons c cs ih =>
    simp only [List.cons_append, pieces, ih]
    split
    · rfl
    · cases hpieces : pieces sep cs with
      | nil => exact absurd hpieces (pieces_ne_nil sep cs)
      | cons first others => rfl

theorem pieces_append_cons {sep : Char} {cs rest : List Char} (h : sep ∉ cs) :
    pieces sep (cs ++ sep :: rest) = cs :: pieces sep rest := by
  rw [pieces_append_sep, pieces_of_not_mem h, List.singleton_append]

theorem not_mem_of_mem_pieces {sep : Char} {cs piece : List Char} (h : piece ∈ pieces sep cs) :
    sep ∉ piece := by
  fun_induction pieces sep cs generalizing piece with
  | case1 => simp_all
  | case2 rest ih =>
    rcases List.mem_cons.mp h with rfl | h
    · exact List.not_mem_nil
    · exact ih h
  | case3 c rest hc hnil => exact absurd hnil (pieces_ne_nil sep rest)
  | case4 c rest hc first others heq ih =>
    rw [heq] at ih
    rcases List.mem_cons.mp h with rfl | h
    · have hfirst : sep ∉ first := ih List.mem_cons_self
      simp [Ne.symm hc, hfirst]
    · exact ih (List.mem_cons_of_mem _ h)

theorem eq_and_eq_of_append_cons {sep : Char} {as bs as' bs' : List Char} (h : sep ∉ as)
    (h' : sep ∉ as') (heq : as ++ sep :: bs = as' ++ sep :: bs') : as = as' ∧ bs = bs' := by
  have hpieces := congrArg (pieces sep) heq
  rw [pieces_append_cons h, pieces_append_cons h'] at hpieces
  obtain ⟨rfl, hrest⟩ := List.cons.inj hpieces
  refine ⟨rfl, ?_⟩
  rw [← glue_pieces sep bs, hrest, glue_pieces]

theorem pieces_glue {sep : Char} {parts : List (List Char)} (hne : parts ≠ [])
    (h : ∀ part ∈ parts, sep ∉ part) : pieces sep (glue [sep] parts) = parts := by
  fun_induction glue [sep] parts with
  | case1 => contradiction
  | case2 part => exact pieces_of_not_mem (h part List.mem_cons_self)
  | case3 part others hothers ih =>
    obtain ⟨hpart, hrest⟩ := List.forall_mem_cons.mp h
    have hne : others ≠ [] := by
      rintro rfl
      exact hothers rfl
    rw [List.append_assoc, List.singleton_append, pieces_append_cons hpart, ih hne hrest]

theorem mem_glue {sep : List Char} {parts : List (List Char)} {c : Char}
    (h : c ∈ glue sep parts) : c ∈ sep ∨ ∃ part ∈ parts, c ∈ part := by
  fun_induction glue sep parts with
  | case1 => simp at h
  | case2 part => exact .inr ⟨part, List.mem_cons_self, h⟩
  | case3 part others hothers ih =>
    rcases List.mem_append.mp h with h | h
    · rcases List.mem_append.mp h with h | h
      · exact .inr ⟨part, List.mem_cons_self, h⟩
      · exact .inl h
    · rcases ih h with h | ⟨other, hother, h⟩
      · exact .inl h
      · exact .inr ⟨other, List.mem_cons_of_mem _ hother, h⟩

theorem mem_glue_of_mem {sep : List Char} {parts : List (List Char)} {part : List Char} {c : Char}
    (hpart : part ∈ parts) (hc : c ∈ part) : c ∈ glue sep parts := by
  fun_induction glue sep parts with
  | case1 => cases hpart
  | case2 only =>
    obtain rfl := List.mem_singleton.mp hpart
    exact hc
  | case3 first others hothers ih =>
    rcases List.mem_cons.mp hpart with rfl | hpart
    · exact List.mem_append_left _ (List.mem_append_left _ hc)
    · exact List.mem_append_right _ (ih hpart)

theorem glue_append_cons (sep : Char) (before : List (List Char)) (piece : List Char)
    (after : List (List Char)) :
    glue [sep] (before ++ piece :: after) =
      before.flatMap (· ++ [sep]) ++ piece ++ after.flatMap (sep :: ·) := by
  induction before with
  | nil =>
    induction after generalizing piece with
    | nil => simp [glue]
    | cons next after ih =>
      have ih := ih next
      simp only [List.nil_append, List.flatMap_nil] at ih ⊢
      rw [glue, ih] <;> simp
  | cons first before ih =>
    cases hrest : before ++ piece :: after with
    | nil => simp at hrest
    | cons next others =>
      rw [hrest] at ih
      rw [List.cons_append, hrest, glue, ih] <;> simp

theorem mem_of_mem_pieces {sep : Char} {cs piece : List Char} {c : Char}
    (hpiece : piece ∈ pieces sep cs) (hc : c ∈ piece) : c ∈ cs := by
  rw [← glue_pieces sep cs]
  exact mem_glue_of_mem hpiece hc

theorem length_glue_append (sep : List Char) (as bs : List (List Char)) :
    (glue sep as).length ≤ (glue sep (as ++ bs)).length := by
  fun_induction glue sep as with
  | case1 => simp
  | case2 piece => cases bs <;> simp [glue]
  | case3 piece others hne ih =>
    cases others with
    | nil => simp at hne
    | cons o os => simp only [List.cons_append, glue, List.length_append] at ih ⊢; omega

/-- Leaving off trailing pieces makes the text shorter, unless one empty piece was the whole. -/
theorem length_glue_lt (sep : Char) (as bs : List (List Char)) {piece : List Char}
    (h : piece ≠ []) :
    (glue [sep] as).length < (glue [sep] (as ++ piece :: bs)).length := by
  fun_induction glue [sep] as with
  | case1 =>
    have hpiece := List.length_pos_iff.2 h
    cases bs with
    | nil => exact hpiece
    | cons b bs => simp only [List.nil_append, glue, List.length_nil, List.length_append]; omega
  | case2 first => simp [glue]
  | case3 first others hne ih =>
    cases others with
    | nil => simp at hne
    | cons o os => simp only [List.cons_append, glue, List.length_append] at ih ⊢; omega

/-- Splits at the last occurrence of a character, which is left out. -/
def splitLast? (sep : Char) : List Char → Option (List Char × List Char)
  | [] => none
  | c :: rest =>
    match splitLast? sep rest with
    | some (before, after) => some (c :: before, after)
    | none => if c = sep then some ([], rest) else none

theorem splitLast?_of_not_mem {sep : Char} {cs : List Char} (h : sep ∉ cs) :
    splitLast? sep cs = none := by
  induction cs with
  | nil => rfl
  | cons c cs ih =>
    rw [List.mem_cons, not_or] at h
    obtain ⟨hc, hcs⟩ := h
    simp [splitLast?, ih hcs, Ne.symm hc]

theorem splitLast?_append_cons {sep : Char} (before : List Char) {after : List Char}
    (h : sep ∉ after) :
    splitLast? sep (before ++ sep :: after) = some (before, after) := by
  induction before with
  | nil => simp [splitLast?, splitLast?_of_not_mem h]
  | cons c before ih => simp [splitLast?, ih]

def join (sep : String) (texts : List String) : String :=
  String.ofList (glue sep.toList (texts.map String.toList))

theorem glue_eq_intercalate (sep : List Char) (parts : List (List Char)) :
    glue sep parts = sep.intercalate parts := by
  fun_induction glue sep parts with
  | case1 => rfl
  | case2 part => simp [List.intercalate]
  | case3 part others hothers ih =>
    cases others with
    | nil => simp at hothers
    | cons o os => simp [ih, List.intercalate]

theorem join_eq_intercalate (sep : String) (texts : List String) :
    join sep texts = sep.intercalate texts := by
  apply String.toList_inj.mp
  rw [join, String.toList_ofList, glue_eq_intercalate, String.toList_intercalate]

end WorkspaceSession.Text
