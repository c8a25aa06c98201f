import WorkspaceSession.Settings

/-! What settings read as. The value set last for a key decides, and a text reads as an integer
where it spells one of 64 bits; a numeral beyond them reads as zero, like every other text. -/
namespace WorkspaceSession

namespace Text

structure Digits (cs : List Char) : Prop where
  nonempty : cs ≠ []
  digits : ∀ c ∈ cs, c.isDigit = true

inductive Signed : List Char → Int → Prop where
  | bare {cs : List Char} (digits : Digits cs) : Signed cs (decimalValue cs)
  | plus {cs : List Char} (digits : Digits cs) : Signed ('+' :: cs) (decimalValue cs)
  | minus {cs : List Char} (digits : Digits cs) : Signed ('-' :: cs) (-(decimalValue cs : Int))

def Blank (s : String) : Prop := ∀ c ∈ s.toList, isBlank c = true

instance (s : String) : Decidable (Blank s) :=
  decidable_of_iff (s.toList.all isBlank = true) List.all_eq_true

/-- The text is the number in decimals, with white space around it or none. -/
def Spells (s : String) (i : Int) : Prop :=
  ∃ before core after : String,
    s = before ++ core ++ after ∧ Blank before ∧ Signed core.toList i ∧ Blank after

theorem natural?_eq_some_iff {cs : List Char} {n : Nat} :
    natural? cs = some n ↔ Digits cs ∧ decimalValue cs = n := by
  unfold natural?
  split
  · next h =>
    obtain ⟨nonempty, hall⟩ := h
    rw [Option.some_inj, iff_and_self]
    intro _
    exact ⟨nonempty, List.all_eq_true.mp hall⟩
  · next h =>
    simp only [reduceCtorEq, false_iff, not_and]
    intro digits
    exact absurd ⟨digits.nonempty, List.all_eq_true.mpr digits.digits⟩ h

theorem Digits.signed? {cs : List Char} (h : Digits cs) :
    signed? cs = some (decimalValue cs : Int) := by
  have hnatural := natural?_eq_some_iff.mpr ⟨h, rfl⟩
  unfold Text.signed?
  split
  · exact absurd (h.digits '-' List.mem_cons_self) (by decide)
  · exact absurd (h.digits '+' List.mem_cons_self) (by decide)
  · rw [hnatural]
    rfl

theorem signed?_eq_some_iff {cs : List Char} {i : Int} : signed? cs = some i ↔ Signed cs i := by
  constructor
  · intro h
    unfold signed? at h
    split at h
    all_goals
      simp only [Option.map_eq_some_iff, Option.bind_eq_bind, Option.bind_eq_some_iff,
        Option.pure_def, Option.some_inj, natural?_eq_some_iff] at h
      obtain ⟨_, ⟨n, ⟨digits, rfl⟩, rfl⟩, rfl⟩ := h
    · exact .minus digits
    · exact .plus digits
    · exact .bare digits
  · intro h
    cases h with
    | bare digits => exact digits.signed?
    | plus digits => simp [signed?, natural?_eq_some_iff.mpr ⟨digits, rfl⟩]
    | minus digits => simp [signed?, natural?_eq_some_iff.mpr ⟨digits, rfl⟩]

theorem int64?_eq_some_iff {cs : List Char} {n : Int64} :
    int64? cs = some n ↔ Signed cs n.toInt := by
  have hbounds (i : Int) : minInt64 ≤ i ∧ i ≤ maxInt64 ↔ (Int64.ofInt i).toInt = i := by
    constructor
    · rintro ⟨hlow, hhigh⟩
      unfold minInt64 at hlow
      unfold maxInt64 at hhigh
      exact Int64.toInt_ofInt_of_le (by omega) (by omega)
    · intro heq
      have hlow := (Int64.ofInt i).le_toInt
      have hhigh := (Int64.ofInt i).toInt_lt
      unfold minInt64 maxInt64
      omega
  rw [← signed?_eq_some_iff]
  unfold int64?
  cases hsigned : signed? cs with
  | none => simp
  | some i =>
    simp only [hbounds]
    split
    · next heq =>
      rw [Option.some_inj, Option.some_inj, ← Int64.toInt_inj, heq]
    · next hne =>
      simp only [reduceCtorEq, Option.some_inj, false_iff]
      rintro rfl
      exact hne (congrArg Int64.toInt (Int64.ofInt_toInt n))

theorem isBlank_of_signed {cs : List Char} {i : Int} (h : Signed cs i) :
    ∀ c ∈ cs, isBlank c = false := by
  have hdigits {ds : List Char} (digits : Digits ds) : ∀ c ∈ ds, isBlank c = false := by
    intro c hc
    obtain ⟨hlow, hhigh⟩ := toNat_of_isDigit (digits.digits c hc)
    exact isBlank_eq_false (by omega) (by omega)
  cases h with
  | bare digits => exact hdigits digits
  | plus digits => exact List.forall_mem_cons.mpr ⟨by decide, hdigits digits⟩
  | minus digits => exact List.forall_mem_cons.mpr ⟨by decide, hdigits digits⟩

theorem spells_iff {s : String} {i : Int} : Spells s i ↔ Signed (trimChars s.toList) i := by
  constructor
  · rintro ⟨before, core, after, rfl, hbefore, signed, hafter⟩
    unfold trimChars
    rw [String.toList_append, String.toList_append,
      stripBoth_eq hbefore hafter (isBlank_of_signed signed)]
    exact signed
  · intro signed
    obtain ⟨before, after, hs, hbefore, hafter⟩ := exists_of_stripBoth isBlank s.toList
    refine ⟨.ofList before, .ofList (trimChars s.toList), .ofList after, ?_, ?_, ?_, ?_⟩
    · rw [← String.ofList_append, ← String.ofList_append, trimChars, ← hs, String.ofList_toList]
    · unfold Blank
      rwa [String.toList_ofList]
    · rwa [String.toList_ofList]
    · unfold Blank
      rwa [String.toList_ofList]

theorem signed_int64Chars (n : Int64) : Signed (int64Chars n) n.toInt := by
  have digits : Digits (decimal n.toInt.natAbs) :=
    ⟨decimal_ne_nil _, fun c hc => isDigit_of_mem_decimal hc⟩
  unfold int64Chars
  split
  · next hneg =>
    have signed := Signed.minus digits
    rwa [decimalValue_decimal, Int.ofNat_natAbs_of_nonpos (Int.le_of_lt hneg), Int.neg_neg]
      at signed
  · next hneg =>
    have signed := Signed.bare digits
    rwa [decimalValue_decimal, Int.natAbs_of_nonneg (Int.not_lt.mp hneg)] at signed

theorem int64Text_eq (n : Int64) : int64Text n = toString n := by
  change String.ofList (int64Chars n) = Int.repr n.toInt
  unfold int64Chars
  cases n.toInt with
  | ofNat k => rfl
  | negSucc k =>
    apply String.toList_inj.mp
    rw [if_pos (Int.negSucc_lt_zero k), String.toList_ofList]
    simp [Int.repr, Nat.repr, decimal]

theorem spells_toString (n : Int64) {before after : String} (hbefore : Blank before)
    (hafter : Blank after) : Spells (before ++ toString n ++ after) n.toInt := by
  refine ⟨before, toString n, after, rfl, hbefore, ?_, hafter⟩
  rw [← int64Text_eq, int64Text, String.toList_ofList]
  exact signed_int64Chars n

end Text

namespace Setting

theorem asInt_of_spells {s : String} {n : Int64} (h : Text.Spells s n.toInt) :
    (text s).asInt = n := by
  simp only [asInt]
  rw [Text.int64?_eq_some_iff.mpr (Text.spells_iff.mp h), Option.getD_some]

theorem asInt_of_not_spells {s : String} (h : ∀ n : Int64, ¬ Text.Spells s n.toInt) :
    (text s).asInt = 0 := by
  simp only [asInt]
  cases hread : Text.int64? (Text.trimChars s.toList) with
  | none => rfl
  | some n => exact absurd (Text.spells_iff.mpr (Text.int64?_eq_some_iff.mp hread)) (h n)

@[simp] theorem asText_integer (n : Int64) : (integer n).asText = toString n :=
  Text.int64Text_eq n

end Setting

namespace Settings

def setAll (s : Settings) (writes : List (String × Setting)) : Settings :=
  writes.foldl (fun s w => s.set w.1 w.2) s

def lastSet? (writes : List (String × Setting)) (key : String) : Option Setting :=
  (writes.filter (·.1 = key)).getLast?.map Prod.snd

theorem lastSet?_cons (write : String × Setting) (writes : List (String × Setting)) (key : String) :
    lastSet? (write :: writes) key =
      (lastSet? writes key).or (if write.1 = key then some write.2 else none) := by
  unfold lastSet?
  rw [List.filter_cons]
  split
  · next h =>
    rw [if_pos (of_decide_eq_true h), List.getLast?_cons]
    cases (writes.filter (·.1 = key)).getLast? <;> rfl
  · next h =>
    rw [if_neg (by simpa using h), Option.or_none]

theorem get?_setAll (s : Settings) (writes : List (String × Setting)) (key : String) :
    (s.setAll writes).values.get? key = (lastSet? writes key).or (s.values.get? key) := by
  unfold setAll
  induction writes generalizing s with
  | nil => rfl
  | cons write writes ih =>
    rw [List.foldl_cons, ih, lastSet?_cons, Option.or_assoc]
    congr 1
    simp only [set, Table.get?_insert, eq_comm (a := key)]
    split <;> rfl

section

variable (s : Settings) (key : String) (value : Setting)

@[simp] theorem getInt_set : (s.set key value).getInt key = value.asInt := by
  simp [getInt, set]

@[simp] theorem getText_set : (s.set key value).getText key = value.asText := by
  simp [getText, set]

end

/-- Every look-up of a key goes by the value set last for it. An integer is read back from its
decimals, whatever white space stands around them, and shown by them. A text reads as the integer
that it spells, and as zero where it spells none or one beyond 64 bits. -/
theorem readings_exact :
    (∀ (writes : List (String × Setting)) (key : String),
      (empty.setAll writes).isSet key = (lastSet? writes key).isSome ∧
      (empty.setAll writes).getBool key = ((lastSet? writes key).map Setting.asBool).getD false ∧
      (empty.setAll writes).getInt key = ((lastSet? writes key).map Setting.asInt).getD 0 ∧
      (empty.setAll writes).getText key = ((lastSet? writes key).map Setting.asText).getD "") ∧
    (∀ (s : Settings) (key : String) (n : Int64) (before after : String),
      Text.Blank before → Text.Blank after →
      (s.set key (.integer n)).getInt key = n ∧
      (s.set key (.text (before ++ toString n ++ after))).getInt key = n ∧
      (s.set key (.integer n)).getText key = toString n ∧
      (s.set key (.text (toString n))).getText key = toString n) ∧
    ∀ (s : Settings) (key text : String),
      (∀ i, Text.Spells text i → Int64.minValue.toInt ≤ i → i ≤ Int64.maxValue.toInt →
        ((s.set key (.text text)).getInt key).toInt = i) ∧
      ((∀ i, Text.Spells text i → i < Int64.minValue.toInt ∨ Int64.maxValue.toInt < i) →
        (s.set key (.text text)).getInt key = 0) := by
  refine ⟨?_, ?_, ?_⟩
  · intro writes key
    have hvalue : (empty.setAll writes).values.get? key = lastSet? writes key := by
      rw [get?_setAll]
      exact Option.or_none
    unfold isSet getBool getInt getText Table.contains
    rw [hvalue]
    exact ⟨rfl, rfl, rfl, rfl⟩
  · intro s key n before after hbefore hafter
    have spells := Text.spells_toString n hbefore hafter
    rw [getInt_set, getInt_set, getText_set, getText_set]
    exact ⟨rfl, Setting.asInt_of_spells spells, Setting.asText_integer n, rfl⟩
  · intro s key text
    rw [getInt_set]
    constructor
    · intro i spells hlow hhigh
      have hi : (Int64.ofInt i).toInt = i :=
        Int64.toInt_ofInt_of_le hlow (Int.lt_add_one_of_le hhigh)
      rw [Setting.asInt_of_spells (n := .ofInt i) (hi.symm ▸ spells), hi]
    · intro beyond
      apply Setting.asInt_of_not_spells
      intro n spells
      have hlow := n.minValue_le_toInt
      have hhigh := n.toInt_le
      have hbeyond := beyond _ spells
      omega

/-- A value of another kind, one for another key, and the least integer between white space. -/
def overwritten : List (String × Setting) :=
  [(cacheTtl, .boolean true), (cacheTtl, .text "\t-9223372036854775808\u2003"),
    (modInstall, .integer 7)]

theorem extremes_read :
    (empty.setAll overwritten).getInt cacheTtl = Int64.minValue ∧
      (empty.set cacheTtl (.text "\t-9223372036854775808\u2003")).getInt cacheTtl =
        Int64.minValue ∧
      (empty.set cacheTtl (.text " +007")).getInt cacheTtl = 7 ∧
      (empty.set cacheTtl (.text "9223372036854775808")).getInt cacheTtl = 0 := by
  obtain ⟨hlast, hback, hspelt⟩ := readings_exact
  have hleast := (hback empty cacheTtl .minValue "\t" "\u2003" (by decide) (by decide)).2.1
  refine ⟨?_, hleast, ?_, ?_⟩
  · have hlookup := (hlast overwritten cacheTtl).2.2.1
    rw [hlookup]
    exact hleast
  · have spells : Text.Spells " +007" 7 := Text.spells_iff.mpr (Text.signed?_eq_some_iff.mp rfl)
    exact Int64.toInt_inj.mp ((hspelt empty cacheTtl " +007").1 7 spells (by decide) (by decide))
  · apply (hspelt empty cacheTtl "9223372036854775808").2
    intro i spells
    have hread := Text.signed?_eq_some_iff.mpr (Text.spells_iff.mp spells)
    obtain rfl : 9223372036854775808 = i := Option.some.inj hread
    decide

end Settings
end WorkspaceSession
