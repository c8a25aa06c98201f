import WorkspaceSession.Proofs.Fallible
import WorkspaceSession.Version.Parser

/-! The written form of versions. A version is written in one way, and reading takes that text and
no other: numbers and identifiers are read exactly as they are written, and so are lists of them. -/
namespace WorkspaceSession

section

variable {part : VersionPart} {n : UInt64} {rest : List Char}

theorem readNumber_decimal (hrest : ∀ c ∈ rest.head?, c.isDigit = false) :
    readNumber part (Text.decimal n.toNat ++ rest) = .ok (n, rest) := by
  have numeral := Text.numeral_decimal n.toNat
  have hvalue := Text.decimalValue_decimal n.toNat
  have hlt : n.toNat < Nat.pow 2 64 := n.toNat_lt
  unfold readNumber
  rw [List.takeWhile_append_of_pos numeral.digits, List.dropWhile_append_of_pos numeral.digits,
    Text.takeWhile_of_head hrest, Text.dropWhile_of_head hrest, List.append_nil]
  cases hdigits : Text.decimal n.toNat with
  | nil => exact absurd hdigits numeral.nonempty
  | cons d ds =>
    rw [hdigits] at numeral hvalue
    have hzero : ¬(d = '0' ∧ ds ≠ []) := by
      rintro ⟨rfl, hne⟩
      simpa [hne] using numeral.zero rfl
    simp only [if_neg hzero, hvalue, if_pos hlt]
    rw [Nat.toUInt64_eq, UInt64.ofNat_toNat]

theorem eq_of_readNumber {cs : List Char} (h : readNumber part cs = .ok (n, rest)) :
    cs = Text.decimal n.toNat ++ rest := by
  unfold readNumber at h
  split at h
  · cases h
  · cases h
  · next _ _ d ds htake =>
    split at h
    · cases h
    · next hzero =>
      split at h
      · next hlt =>
        obtain ⟨rfl, rfl⟩ := Prod.mk.inj (Except.ok.inj h)
        have numeral : Text.Numeral (d :: ds) := by
          refine ⟨List.cons_ne_nil d ds, ?_, ?_⟩
          · rw [← htake]
            exact List.all_eq_true.mp List.all_takeWhile
          · grind
        have hnat : (Text.decimalValue (d :: ds)).toUInt64.toNat = Text.decimalValue (d :: ds) :=
          Nat.mod_eq_of_lt hlt
        rw [hnat, numeral.decimal_decimalValue, ← htake, List.takeWhile_append_dropWhile]
      · cases h

theorem eq_of_readDot {cs : List Char} (h : readDot part cs = .ok rest) :
    cs = '.' :: rest := by
  unfold readDot at h
  split at h
  · obtain rfl := Except.ok.inj h
    rfl
  · cases h
  · cases h

end

theorem isIdentifierChar_of_isDigit {c : Char} (h : c.isDigit = true) :
    isIdentifierChar c = true := by
  simp [isIdentifierChar, Char.isAlphanum, h]

theorem PreIdentifier.wellFormed (id : PreIdentifier) :
    id.chars ≠ [] ∧ id.chars.all isIdentifierChar = true := by
  cases id with
  | number n =>
    have numeral := Text.numeral_decimal n
    refine ⟨numeral.nonempty, List.all_eq_true.mpr ?_⟩
    intro c hc
    exact isIdentifierChar_of_isDigit (numeral.digits c hc)
  | name id nondigit => exact id.wellFormed

theorem readPreIdentifier_decimal (n : Nat) :
    readPreIdentifier (Text.decimal n) = .ok (.number n) := by
  have numeral := Text.numeral_decimal n
  have hzero : ¬((Text.decimal n).head? = some '0' ∧ (Text.decimal n).length ≠ 1) := by
    rintro ⟨hhead, hlength⟩
    rw [numeral.zero hhead] at hlength
    contradiction
  have wellFormed : Text.decimal n ≠ [] ∧ (Text.decimal n).all isIdentifierChar = true :=
    (PreIdentifier.number n).wellFormed
  unfold readPreIdentifier
  rw [dif_pos wellFormed, dif_pos (List.all_eq_true.mpr numeral.digits),
    if_neg hzero, Text.decimalValue_decimal]

theorem eq_of_readPreIdentifier {cs : List Char} {id : PreIdentifier}
    (h : readPreIdentifier cs = .ok id) : cs = id.chars := by
  unfold readPreIdentifier at h
  split at h
  · next wellFormed =>
    split at h
    · next digits =>
      split at h
      · cases h
      · next hzero =>
        obtain rfl := Except.ok.inj h
        have numeral : Text.Numeral cs := by
          refine ⟨wellFormed.1, List.all_eq_true.mp digits, ?_⟩
          intro hhead
          obtain ⟨c, rfl⟩ : ∃ c, cs = [c] := by
            apply List.length_eq_one_iff.mp
            simpa [hhead] using hzero
          rw [List.head?_cons, Option.some.injEq] at hhead
          rw [hhead]
        exact numeral.decimal_decimalValue.symm
    · obtain rfl := Except.ok.inj h
      rfl
  · cases h

structure Exact (read : List Char → Except VersionFault α) (chars : α → List Char) : Prop where
  read_eq_ok_iff : ∀ cs a, read cs = .ok a ↔ cs = chars a
  wellFormed : ∀ a, chars a ≠ [] ∧ (chars a).all isIdentifierChar = true

theorem exact_preIdentifier : Exact readPreIdentifier PreIdentifier.chars where
  wellFormed := PreIdentifier.wellFormed
  read_eq_ok_iff cs id := by
    refine ⟨eq_of_readPreIdentifier, ?_⟩
    rintro rfl
    cases id with
    | number n => exact readPreIdentifier_decimal n
    | name id nondigit =>
      change readPreIdentifier id.chars = _
      unfold readPreIdentifier
      rw [dif_pos id.wellFormed, dif_neg (by simp [nondigit])]

theorem exact_buildIdentifier : Exact readBuildIdentifier Identifier.chars where
  wellFormed := Identifier.wellFormed
  read_eq_ok_iff cs id := by
    unfold readBuildIdentifier
    constructor
    · intro h
      split at h
      · obtain rfl := Except.ok.inj h
        rfl
      · cases h
    · rintro rfl
      rw [dif_pos id.wellFormed]

def readMarked (mark : Char) (read : List Char → Except VersionFault α) :
    List Char → Except VersionFault (List α × List Char)
  | [] => .ok ([], [])
  | c :: rest => if c = mark then readDotted read rest else .ok ([], c :: rest)

theorem readPre_eq (cs : List Char) : readPre cs = readMarked '-' readPreIdentifier cs := by
  unfold readPre readMarked
  split
  · simp
  · next hne =>
    cases cs with
    | nil => rfl
    | cons c cs => simp [show c ≠ '-' from fun h => hne cs (h ▸ rfl)]

theorem readBuild_eq (cs : List Char) : readBuild cs = readMarked '+' readBuildIdentifier cs := by
  unfold readBuild readMarked
  split
  · simp
  · next hne =>
    cases cs with
    | nil => rfl
    | cons c cs => simp [show c ≠ '+' from fun h => hne cs (h ▸ rfl)]

namespace Exact

variable {read : List Char → Except VersionFault α} {chars : α → List Char}

theorem readEach_eq_ok_iff (exact : Exact read chars) {parts : List (List Char)} {as : List α} :
    readEach read parts = .ok as ↔ parts = as.map chars := by
  induction parts generalizing as with
  | nil => cases as <;> simp [readEach]
  | cons part parts ih =>
    rw [readEach, bind_eq_ok_iff]
    constructor
    · rintro ⟨a, ha, h⟩
      obtain ⟨as', has, h⟩ := bind_eq_ok_iff.mp h
      obtain rfl := Except.ok.inj h
      rw [(exact.read_eq_ok_iff part a).mp ha, ih.mp has, List.map_cons]
    · intro h
      obtain ⟨a, as', rfl, rfl, rfl⟩ := List.map_eq_cons_iff.mp h.symm
      refine ⟨a, (exact.read_eq_ok_iff _ a).mpr rfl, ?_⟩
      exact bind_eq_ok_iff.mpr ⟨as', ih.mpr rfl, rfl⟩

theorem isDottedChar_of_mem_glue (exact : Exact read chars) {as : List α} {c : Char}
    (h : c ∈ Text.glue ['.'] (as.map chars)) : isDottedChar c = true := by
  unfold isDottedChar
  rcases Text.mem_glue h with h | ⟨part, hpart, hc⟩
  · simp [List.mem_singleton.mp h]
  · obtain ⟨a, -, rfl⟩ := List.mem_map.mp hpart
    simp [List.all_eq_true.mp (exact.wellFormed a).2 c hc]

theorem dot_not_mem (exact : Exact read chars) (a : α) : '.' ∉ chars a := by
  intro h
  exact absurd (List.all_eq_true.mp (exact.wellFormed a).2 _ h) (by decide)

theorem glue_ne_nil (exact : Exact read chars) {as : List α} (hne : as ≠ []) :
    Text.glue ['.'] (as.map chars) ≠ [] := by
  cases as with
  | nil => contradiction
  | cons a as =>
    have hfirst := (exact.wellFormed a).1
    cases as <;> simp [Text.glue, hfirst]

theorem readDotted_glue (exact : Exact read chars) {as : List α} (hne : as ≠ []) {rest : List Char}
    (hrest : ∀ c ∈ rest.head?, isDottedChar c = false) :
    readDotted read (Text.glue ['.'] (as.map chars) ++ rest) = .ok (as, rest) := by
  have hdotted : ∀ c ∈ Text.glue ['.'] (as.map chars), isDottedChar c = true :=
    fun c => exact.isDottedChar_of_mem_glue
  have hpieces : Text.pieces '.' (Text.glue ['.'] (as.map chars)) = as.map chars := by
    apply Text.pieces_glue (by simpa using hne)
    simpa using fun a _ => exact.dot_not_mem a
  unfold readDotted
  rw [List.takeWhile_append_of_pos hdotted, List.dropWhile_append_of_pos hdotted,
    Text.takeWhile_of_head hrest, Text.dropWhile_of_head hrest, List.append_nil, hpieces]
  exact bind_eq_ok_iff.mpr ⟨as, exact.readEach_eq_ok_iff.mpr rfl, rfl⟩

theorem eq_of_readDotted (exact : Exact read chars) {as : List α} {cs rest : List Char}
    (h : readDotted read cs = .ok (as, rest)) :
    as ≠ [] ∧ cs = Text.glue ['.'] (as.map chars) ++ rest := by
  obtain ⟨as', hparts, h⟩ := bind_eq_ok_iff.mp h
  obtain ⟨rfl, rfl⟩ := Prod.mk.inj (Except.ok.inj h)
  have hpieces := exact.readEach_eq_ok_iff.mp hparts
  constructor
  · rintro rfl
    exact Text.pieces_ne_nil _ _ hpieces
  · rw [← hpieces, Text.glue_pieces, List.takeWhile_append_dropWhile]

theorem readMarked_marked (exact : Exact read chars) {mark : Char} (as : List α) {rest : List Char}
    (hrest : ∀ c ∈ rest.head?, isDottedChar c = false ∧ c ≠ mark) :
    readMarked mark read (marked mark (Text.glue ['.'] (as.map chars)) ++ rest) =
      .ok (as, rest) := by
  by_cases hne : as = []
  · obtain rfl := hne
    cases rest with
    | nil => rfl
    | cons c rest => exact if_neg (hrest c rfl).2
  · have hread := exact.readDotted_glue hne fun c hc => (hrest c hc).1
    cases hglue : Text.glue ['.'] (as.map chars) with
    | nil => exact absurd hglue (exact.glue_ne_nil hne)
    | cons c cs =>
      rw [hglue] at hread
      rw [← hread]
      exact if_pos rfl

theorem eq_of_readMarked (exact : Exact read chars) {mark : Char} {as : List α}
    {cs rest : List Char} (h : readMarked mark read cs = .ok (as, rest)) :
    cs = marked mark (Text.glue ['.'] (as.map chars)) ++ rest := by
  unfold readMarked at h
  split at h
  · obtain ⟨rfl, rfl⟩ := Prod.mk.inj (Except.ok.inj h)
    rfl
  · split at h
    · next hmark =>
      obtain ⟨hne, rfl⟩ := exact.eq_of_readDotted h
      have hglue := exact.glue_ne_nil hne
      cases hcs : Text.glue ['.'] (as.map chars) with
      | nil => exact absurd hcs hglue
      | cons c cs => rw [hmark]; rfl
    · obtain ⟨rfl, rfl⟩ := Prod.mk.inj (Except.ok.inj h)
      rfl

end Exact

namespace Version

theorem chars_eq (v : Version) :
    v.chars = Text.decimal v.major.toNat ++ '.' :: (Text.decimal v.minor.toNat ++
      '.' :: (Text.decimal v.patch.toNat ++
        (marked '-' (preChars v.pre) ++ marked '+' (buildChars v.build)))) := by
  simp [chars, coreChars]

theorem head?_marked_append {mark c : Char} {cs rest : List Char}
    (h : c ∈ (marked mark cs ++ rest).head?) : c = mark ∨ c ∈ rest.head? := by
  cases cs with
  | nil => exact .inr h
  | cons d ds => exact .inl (Option.some.inj h).symm

theorem head?_marked {mark c : Char} {cs : List Char} (h : c ∈ (marked mark cs).head?) :
    c = mark := by
  cases cs with
  | nil => cases h
  | cons d ds => exact (Option.some.inj h).symm

theorem readBuild_chars (build : List Identifier) :
    readBuild (marked '+' (buildChars build)) = .ok (build, []) := by
  rw [readBuild_eq, ← List.append_nil (marked '+' (buildChars build))]
  exact exact_buildIdentifier.readMarked_marked build (by simp)

theorem readPre_chars (v : Version) :
    readPre (marked '-' (preChars v.pre) ++ marked '+' (buildChars v.build)) =
      .ok (v.pre, marked '+' (buildChars v.build)) := by
  rw [readPre_eq]
  apply exact_preIdentifier.readMarked_marked v.pre
  intro c hc
  obtain rfl := head?_marked hc
  decide

theorem read_chars (v : Version) : read v.chars = .ok v := by
  have hdot (rest : List Char) : ∀ c ∈ ('.' :: rest).head?, c.isDigit = false := by
    rintro c ⟨⟩
    rfl
  have hpatch : ∀ c ∈ (marked '-' (preChars v.pre) ++ marked '+' (buildChars v.build)).head?,
      c.isDigit = false := by
    intro c hc
    rcases head?_marked_append hc with rfl | hc
    · rfl
    · obtain rfl := head?_marked hc
      rfl
  unfold read
  rw [chars_eq]
  refine bind_eq_ok_iff.mpr ⟨_, readNumber_decimal (hdot _), ?_⟩
  refine bind_eq_ok_iff.mpr ⟨_, rfl, ?_⟩
  refine bind_eq_ok_iff.mpr ⟨_, readNumber_decimal (hdot _), ?_⟩
  refine bind_eq_ok_iff.mpr ⟨_, rfl, ?_⟩
  refine bind_eq_ok_iff.mpr ⟨_, readNumber_decimal hpatch, ?_⟩
  refine bind_eq_ok_iff.mpr ⟨_, v.readPre_chars, ?_⟩
  exact bind_eq_ok_iff.mpr ⟨_, readBuild_chars v.build, rfl⟩

/-- A version has one written form, and no other text is read as it. -/
theorem read_eq_ok_iff {cs : List Char} {v : Version} : read cs = .ok v ↔ cs = v.chars := by
  constructor
  · intro h
    obtain ⟨⟨major, cs₁⟩, hmajor, h⟩ := bind_eq_ok_iff.mp h
    obtain ⟨cs₂, hdot, h⟩ := bind_eq_ok_iff.mp h
    obtain ⟨⟨minor, cs₃⟩, hminor, h⟩ := bind_eq_ok_iff.mp h
    obtain ⟨cs₄, hdot', h⟩ := bind_eq_ok_iff.mp h
    obtain ⟨⟨patch, cs₅⟩, hpatch, h⟩ := bind_eq_ok_iff.mp h
    obtain ⟨⟨pre, cs₆⟩, hpre, h⟩ := bind_eq_ok_iff.mp h
    obtain ⟨⟨build, cs₇⟩, hbuild, h⟩ := bind_eq_ok_iff.mp h
    cases cs₇ with
    | cons c cs => cases h
    | nil =>
      obtain rfl := Except.ok.inj h
      rw [readPre_eq] at hpre
      rw [readBuild_eq] at hbuild
      rw [eq_of_readNumber hmajor, eq_of_readDot hdot, eq_of_readNumber hminor,
        eq_of_readDot hdot', eq_of_readNumber hpatch, exact_preIdentifier.eq_of_readMarked hpre,
        exact_buildIdentifier.eq_of_readMarked hbuild, chars_eq, List.append_nil]
      rfl
  · rintro rfl
    exact v.read_chars

theorem read?_eq_some_iff {cs : List Char} {v : Version} : read? cs = some v ↔ cs = v.chars := by
  rw [← read_eq_ok_iff]
  unfold read?
  cases read cs <;> simp [Except.toOption]

end Version

end WorkspaceSession
