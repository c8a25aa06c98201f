import WorkspaceSession.Proofs.VersionText

/-! Loose reading of versions: the texts it takes, and what it makes of each. Padding supplies
zeros for numbers left out at the end and changes no other text, so a partial version has numbers
alone. -/
namespace WorkspaceSession

open Text

theorem dot_not_mem_decimal (n : Nat) : '.' ∉ decimal n := (numeral_decimal n).not_mem rfl

structure Writes (digits : List Char) (n : UInt64) : Prop where
  numeral : Numeral digits
  value : decimalValue digits = n.toNat

theorem writes_iff {digits : List Char} {n : UInt64} :
    Writes digits n ↔ digits = decimal n.toNat := by
  constructor
  · rintro ⟨numeral, value⟩
    rw [← value, numeral.decimal_decimalValue]
  · rintro rfl
    exact ⟨numeral_decimal _, decimalValue_decimal _⟩

namespace Version

theorem chars_injective {v w : Version} (h : v.chars = w.chars) : v = w := by
  have hread := v.read_chars
  rw [h, w.read_chars] at hread
  exact (Except.ok.inj hread).symm

theorem dot_mem_chars (v : Version) : '.' ∈ v.chars := by
  rw [chars_eq]
  simp

inductive Denotes : List Char → Version → Prop where
  | full (v : Version) : Denotes v.chars v
  | major {a : List Char} {major : UInt64} : Writes a major →
    Denotes a { major, minor := 0, patch := 0 }
  | minor {a b : List Char} {major minor : UInt64} : Writes a major → Writes b minor →
    Denotes (a ++ '.' :: b) { major, minor, patch := 0 }

theorem chars_major (major : UInt64) :
    chars { major, minor := 0, patch := 0 } = decimal major.toNat ++ ['.', '0', '.', '0'] := by
  simp [chars_eq, preChars, buildChars, glue, marked]

theorem chars_minor (major minor : UInt64) :
    chars { major, minor, patch := 0 } =
      decimal major.toNat ++ '.' :: decimal minor.toNat ++ ['.', '0'] := by
  simp [chars_eq, preChars, buildChars, glue, marked]

theorem pad_major {a : List Char} (h : '.' ∉ a) : pad a = a ++ ['.', '0', '.', '0'] := by
  unfold pad
  rw [pieces_of_not_mem h]

theorem pad_minor {a b : List Char} (ha : '.' ∉ a) (hb : '.' ∉ b) :
    pad (a ++ '.' :: b) = a ++ '.' :: b ++ ['.', '0'] := by
  unfold pad
  rw [pieces_append_cons ha, pieces_of_not_mem hb]

theorem pad_cases (cs : List Char) :
    '.' ∉ cs ∨ (∃ a b, cs = a ++ '.' :: b ∧ '.' ∉ a ∧ '.' ∉ b) ∨ pad cs = cs := by
  unfold pad
  split
  · next major heq =>
    refine .inl ?_
    have hnot : '.' ∉ major := not_mem_of_mem_pieces (heq ▸ List.mem_singleton_self major)
    rw [← glue_pieces '.' cs, heq]
    exact hnot
  · next major minor heq =>
    refine .inr (.inl ⟨major, minor, ?_, ?_, ?_⟩)
    · rw [← glue_pieces '.' cs, heq]
      simp [glue]
    · exact not_mem_of_mem_pieces (heq ▸ List.mem_cons_self)
    · exact not_mem_of_mem_pieces (heq ▸ List.mem_cons_of_mem _ (List.mem_singleton_self minor))
  · exact .inr (.inr rfl)

theorem denotes_of_pad {cs : List Char} {v : Version} (hnone : read? cs = none)
    (hpad : read? (pad cs) = some v) : Denotes cs v := by
  rcases pad_cases cs with hdot | ⟨a, b, rfl, ha, hb⟩ | hsame
  · rw [read?_eq_some_iff, pad_major hdot, chars_eq] at hpad
    obtain ⟨hmajor, -⟩ := eq_and_eq_of_append_cons hdot (dot_not_mem_decimal _) hpad
    have hv : v = { major := v.major, minor := 0, patch := 0 } := by
      apply chars_injective
      rw [chars_major, chars_eq, ← hpad, hmajor]
    rw [hv]
    exact .major (writes_iff.mpr hmajor)
  · rw [read?_eq_some_iff, pad_minor ha hb, chars_eq, List.append_assoc, List.cons_append] at hpad
    obtain ⟨hmajor, hrest⟩ := eq_and_eq_of_append_cons ha (dot_not_mem_decimal _) hpad
    obtain ⟨hminor, -⟩ := eq_and_eq_of_append_cons hb (dot_not_mem_decimal _) hrest
    have hv : v = { major := v.major, minor := v.minor, patch := 0 } := by
      apply chars_injective
      rw [chars_minor, chars_eq, ← hpad, hmajor, hminor, List.append_assoc, List.cons_append]
    rw [hv]
    exact .minor (writes_iff.mpr hmajor) (writes_iff.mpr hminor)
  · rw [hsame, hnone] at hpad
    cases hpad

theorem read?_eq_none_of_dot {cs : List Char} (h : '.' ∉ cs) : read? cs = none := by
  cases hread : read? cs with
  | none => rfl
  | some v =>
    rw [read?_eq_some_iff.mp hread] at h
    exact absurd v.dot_mem_chars h

theorem read?_eq_none_of_one_dot {a b : List Char} (ha : '.' ∉ a) (hb : '.' ∉ b) :
    read? (a ++ '.' :: b) = none := by
  cases hread : read? (a ++ '.' :: b) with
  | none => rfl
  | some v =>
    have heq := read?_eq_some_iff.mp hread
    rw [chars_eq] at heq
    obtain ⟨-, hrest⟩ := eq_and_eq_of_append_cons ha (dot_not_mem_decimal _) heq
    rw [hrest] at hb
    simp at hb

theorem parse?_eq_some_iff (s : String) (v : Version) :
    parse? s = some v ↔ Denotes (stripped s) v := by
  unfold parse?
  generalize stripped s = cs
  rw [Option.or_eq_some_iff]
  constructor
  · rintro (h | ⟨hnone, hpad⟩)
    · rw [read?_eq_some_iff.mp h]
      exact .full v
    · exact denotes_of_pad hnone hpad
  · intro denotes
    cases denotes with
    | full => exact .inl (read?_eq_some_iff.mpr rfl)
    | major writes =>
      have hcs : '.' ∉ cs := writes.numeral.not_mem rfl
      refine .inr ⟨read?_eq_none_of_dot hcs, read?_eq_some_iff.mpr ?_⟩
      rw [pad_major hcs, chars_major, writes_iff.mp writes]
    | @minor a b major minor writes writes' =>
      have ha : '.' ∉ a := writes.numeral.not_mem rfl
      have hb : '.' ∉ b := writes'.numeral.not_mem rfl
      refine .inr ⟨read?_eq_none_of_one_dot ha hb, read?_eq_some_iff.mpr ?_⟩
      rw [pad_minor ha hb, chars_minor, writes_iff.mp writes, writes_iff.mp writes']

theorem isDigit_of_mem_head? (v : Version) {c : Char} (h : c ∈ v.chars.head?) :
    c.isDigit = true := by
  have hne := decimal_ne_nil v.major.toNat
  rw [chars_eq] at h
  cases hmajor : decimal v.major.toNat with
  | nil => exact absurd hmajor hne
  | cons d ds =>
    rw [hmajor] at h
    obtain rfl := Option.some.inj h
    exact isDigit_of_mem_decimal (hmajor ▸ List.mem_cons_self)

def isVersionChar (c : Char) : Bool := isDottedChar c || c = '+'

theorem isVersionChar_of_mem_marked {mark : Char} {cs : List Char}
    (hmark : isVersionChar mark = true) (hcs : ∀ c ∈ cs, isVersionChar c = true) :
    ∀ c ∈ marked mark cs, isVersionChar c = true := by
  cases cs with
  | nil => simp [marked]
  | cons c cs => simpa [marked, hmark] using hcs

theorem isVersionChar_of_mem (v : Version) : ∀ c ∈ v.chars, isVersionChar c = true := by
  have hdecimal (n : Nat) : ∀ c ∈ decimal n, isVersionChar c = true := by
    intro c hc
    simp [isVersionChar, isDottedChar, isIdentifierChar_of_isDigit (isDigit_of_mem_decimal hc)]
  have hpre : ∀ c ∈ marked '-' (preChars v.pre), isVersionChar c = true := by
    apply isVersionChar_of_mem_marked (by decide)
    intro c hc
    simp [isVersionChar, exact_preIdentifier.isDottedChar_of_mem_glue hc]
  have hbuild : ∀ c ∈ marked '+' (buildChars v.build), isVersionChar c = true := by
    apply isVersionChar_of_mem_marked (by decide)
    intro c hc
    simp [isVersionChar, exact_buildIdentifier.isDottedChar_of_mem_glue hc]
  have hdot : isVersionChar '.' = true := by decide
  rw [chars_eq]
  simp only [List.forall_mem_append, List.forall_mem_cons]
  exact ⟨hdecimal _, hdot, hdecimal _, hdot, hdecimal _, hpre, hbuild⟩

theorem toNat_of_isVersionChar {c : Char} (h : isVersionChar c = true) :
    43 ≤ c.toNat ∧ c.toNat ≤ 122 := by
  unfold isVersionChar isDottedChar isIdentifierChar at h
  simp only [Bool.or_eq_true, decide_eq_true_eq] at h
  rcases h with ((halphanum | rfl) | rfl) | rfl
  · obtain ⟨hlow, hhigh⟩ := toNat_of_isAlphanum halphanum
    exact ⟨by omega, hhigh⟩
  · decide
  · decide
  · decide

theorem isBlank_of_isVersionChar {c : Char} (h : isVersionChar c = true) : isBlank c = false := by
  obtain ⟨hlow, hhigh⟩ := toNat_of_isVersionChar h
  exact isBlank_eq_false (by omega) (by omega)

/-- White space around a text and `v`s in front of it are all that is dropped. -/
theorem exists_of_stripped (s : String) :
    ∃ before vs after, s.toList = before ++ vs ++ stripped s ++ after ∧
      (∀ c ∈ before, isBlank c = true) ∧ (∀ c ∈ vs, c = 'v') ∧ ∀ c ∈ after, isBlank c = true := by
  obtain ⟨before, after, hs, hbefore, hafter⟩ := exists_of_stripBoth isBlank s.toList
  refine ⟨before, (trimChars s.toList).takeWhile (· = 'v'), after, ?_, hbefore, ?_, hafter⟩
  · unfold stripped
    rw [List.append_assoc before, List.takeWhile_append_dropWhile]
    exact hs
  · intro c hc
    simpa using List.all_eq_true.mp List.all_takeWhile c hc

theorem stripped_decorated (v : Version) {before vs after : List Char}
    (hbefore : ∀ c ∈ before, isBlank c = true) (hvs : ∀ c ∈ vs, c = 'v')
    (hafter : ∀ c ∈ after, isBlank c = true) :
    stripped (String.ofList (before ++ vs ++ v.chars ++ after)) = v.chars := by
  have hvisible : ∀ c ∈ vs ++ v.chars, isBlank c = false := by
    intro c hc
    rcases List.mem_append.mp hc with hc | hc
    · rw [hvs c hc]
      rfl
    · exact isBlank_of_isVersionChar (v.isVersionChar_of_mem c hc)
  have htrim : trimChars (before ++ vs ++ v.chars ++ after) = vs ++ v.chars := by
    rw [List.append_assoc before]
    exact stripBoth_eq hbefore hafter hvisible
  have hhead : ∀ c ∈ v.chars.head?, decide (c = 'v') = false := by
    intro c hc
    rw [decide_eq_false_iff_not]
    rintro rfl
    exact absurd (v.isDigit_of_mem_head? hc) (by decide)
  unfold stripped
  rw [String.toList_ofList, htrim, List.dropWhile_append_of_pos (by simpa using hvs),
    dropWhile_of_head hhead]

theorem Denotes.isVersionChar_of_mem {cs : List Char} {v : Version} (denotes : Denotes cs v) :
    ∀ c ∈ cs, isVersionChar c = true := by
  have hdigit {digits : List Char} (numeral : Numeral digits) :
      ∀ c ∈ digits, isVersionChar c = true := by
    intro c hc
    simp [isVersionChar, isDottedChar, isIdentifierChar_of_isDigit (numeral.digits c hc)]
  cases denotes with
  | full => exact v.isVersionChar_of_mem
  | major writes => exact hdigit writes.numeral
  | minor writes writes' =>
    simp only [List.forall_mem_append, List.forall_mem_cons]
    exact ⟨hdigit writes.numeral, by decide, hdigit writes'.numeral⟩

theorem isBlank_or_isVersionChar {s : String} {v : Version} (h : parse? s = some v) :
    ∀ c ∈ s.toList, isBlank c = true ∨ isVersionChar c = true := by
  have denotes := (parse?_eq_some_iff s v).mp h
  obtain ⟨before, vs, after, hs, hbefore, hvs, hafter⟩ := exists_of_stripped s
  rw [hs]
  simp only [List.forall_mem_append]
  refine ⟨⟨⟨?_, ?_⟩, ?_⟩, ?_⟩
  · intro c hc
    exact .inl (hbefore c hc)
  · intro c hc
    rw [hvs c hc]
    exact .inr (by decide)
  · intro c hc
    exact .inr (denotes.isVersionChar_of_mem c hc)
  · intro c hc
    exact .inl (hafter c hc)

/-- Loose reading is exact. A text is taken where, without the white space around it and the `v`s
in front, it is a full version or a numeral of 64 bits or two of them with a dot between; it stands
for that version, or for the numbers given and zeros. Full versions are the written forms of
versions, so a version comes back from its text with any such ornament around it. -/
theorem parse?_exact :
    (∀ (s : String) (v : Version), parse? s = some v ↔ Denotes (stripped s) v) ∧
      (∀ (cs : List Char) (v : Version), read? cs = some v ↔ cs = v.chars) ∧
      ∀ (v : Version) (before vs after : List Char), (∀ c ∈ before, isBlank c = true) →
        (∀ c ∈ vs, c = 'v') → (∀ c ∈ after, isBlank c = true) →
        parse? (String.ofList (before ++ vs ++ v.chars ++ after)) = some v := by
  refine ⟨parse?_eq_some_iff, fun cs v => read?_eq_some_iff, ?_⟩
  intro v before vs after hbefore hvs hafter
  rw [parse?_eq_some_iff, v.stripped_decorated hbefore hvs hafter]
  exact .full v

def candidate : Version where
  major := 1
  minor := 20
  patch := 3
  pre := [.name ⟨['r', 'c'], by decide⟩ (by decide), .number 4]
  build := [⟨['0', '0', '7'], by decide⟩]

theorem candidate_exact :
    candidate.text = "1.20.3-rc.4+007" ∧ parse? " vv1.20.3-rc.4+007\t" = some candidate := by
  have hdecorated := parse?_exact.2.2 candidate [' '] ['v', 'v'] ['\t']
    (List.forall_mem_singleton.mpr rfl) (by simp) (List.forall_mem_singleton.mpr rfl)
  exact ⟨by decide, hdecorated⟩

end Version

end WorkspaceSession
