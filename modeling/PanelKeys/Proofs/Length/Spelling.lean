import PanelKeys.Proofs.Length.Apart
import PanelKeys.Proofs.Number.Nearest

/-!
# How lengths are spelled

What is taken for a length decides which cells are converted, so it has to be known from the text
alone.  A length is a decimal with blanks around it: at most one sign, digits with at most one point
among them, before them or behind them, and then, if at all, the unit.

The reader goes through these parts from the front and never goes back.  It need not: no part can
begin with a character that the part before it could have taken.  So it finds the parts of every
text that has them.

* `Spells` — the grammar, with the decimal that is spelled;
* `isUnitTail_iff`, `number?_eq_some_iff`, **`decimalOf?_eq_some_iff`** — the reader accepts the
  grammar, part by part and as a whole;
* **`length_read_iff_spelled`** — what is read of a text is the double nearest to the decimal that
  it spells.
-/

namespace PanelKeys.Length.Millimeter

open PanelKeys.Number
open PanelKeys.Text

-- Powers are those of natural numbers, also where monoids are known.
attribute [local instance (high)] instPowNat

/-! ## The grammar -/

/-- Blanks, or nothing. -/
def AllBlank (cs : List Char) : Prop := ∀ c ∈ cs, isBlank c = true

/-- Digits from `0` to `9`, or nothing. -/
def AllDigits (cs : List Char) : Prop := ∀ c ∈ cs, c.isDigit = true

/-- At most one sign, and whether it is a minus. -/
inductive SpellsSign : List Char → Bool → Prop
  | nothing : SpellsSign [] false
  | plus : SpellsSign ['+'] false
  | minus : SpellsSign ['-'] true

/-- Digits with at most one point, and those that stand before and behind it.  The point is not
alone. -/
inductive SpellsDigits : List Char → List Char → List Char → Prop
  | whole {whole : List Char} : AllDigits whole → whole ≠ [] → SpellsDigits whole whole []
  | pointed {whole fraction : List Char} : AllDigits whole → whole ≠ [] → AllDigits fraction →
      SpellsDigits (whole ++ '.' :: fraction) whole fraction
  | fraction {fraction : List Char} : AllDigits fraction → fraction ≠ [] →
      SpellsDigits ('.' :: fraction) [] fraction

/-- The unit, or nothing. -/
inductive SpellsUnit : List Char → Prop
  | nothing : SpellsUnit []
  | mm : SpellsUnit ['m', 'm']

/-- The decimal with this sign and these digits. -/
def decimalOf (negative : Bool) (whole fraction : List Char) : Decimal :=
  ⟨negative, Nat.ofDigitChars 10 (whole ++ fraction) 0, fraction.length⟩

/-- What may follow the digits: blanks, and the unit among them. -/
inductive SpellsTail : List Char → Prop
  | intro {gap unit after : List Char} : AllBlank gap → SpellsUnit unit → AllBlank after →
      SpellsTail (gap ++ (unit ++ after))

/-- A decimal with blanks before it, and what may follow it. -/
inductive Spells : List Char → Decimal → Prop
  | intro {before sign number whole fraction tail : List Char} {negative : Bool} : AllBlank before →
      SpellsSign sign negative → SpellsDigits number whole fraction → SpellsTail tail →
      Spells (before ++ (sign ++ (number ++ tail))) (decimalOf negative whole fraction)

/-! ## Blanks -/

lemma allBlank_takeWhile (cs : List Char) : AllBlank (cs.takeWhile isBlank) :=
  fun _ => List.mem_takeWhile_imp

lemma takeWhile_append_dropBlanks (cs : List Char) : cs.takeWhile isBlank ++ dropBlanks cs = cs :=
  List.takeWhile_append_dropWhile

/-- Blanks are dropped up to the first character that is none. -/
lemma dropBlanks_append {before rest : List Char} (hbefore : AllBlank before)
    (hrest : NoLeadingBlank rest) :
    dropBlanks (before ++ rest) = rest := by
  rw [dropBlanks, List.dropWhile_append_of_pos hbefore]
  exact dropBlanks_eq_self hrest

lemma dropBlanks_eq_nil_iff {cs : List Char} : dropBlanks cs = [] ↔ AllBlank cs :=
  List.dropWhile_eq_nil_iff

/-! ## Behind the digits -/

/-- **Behind the digits the reader accepts blanks, and the unit among them.** -/
lemma isUnitTail_iff {cs : List Char} : isUnitTail cs = true ↔ SpellsTail cs := by
  constructor
  · intro h
    rw [← takeWhile_append_dropBlanks cs]
    simp only [isUnitTail] at h
    split at h
    · next after hunit =>
        rw [hunit]
        exact .intro (allBlank_takeWhile cs) .mm (dropBlanks_eq_nil_iff.1 (List.isEmpty_iff.1 h))
    · rw [List.isEmpty_iff.1 h]
      have hnothing : AllBlank [] := by simp [AllBlank]
      exact .intro (allBlank_takeWhile cs) .nothing hnothing
  · rintro @⟨gap, unit, after, hgap, hunit, hafter⟩
    cases hunit with
    | nothing =>
        have hblank : AllBlank (gap ++ ([] ++ after)) := List.forall_mem_append.2 ⟨hgap, hafter⟩
        rw [isUnitTail, dropBlanks_eq_nil_iff.2 hblank]
        rfl
    | mm =>
        have hleft : dropBlanks (gap ++ (['m', 'm'] ++ after)) = 'm' :: 'm' :: after :=
          dropBlanks_append hgap (noLeadingBlank_cons (by decide) _)
        simp only [isUnitTail, hleft, dropBlanks_eq_nil_iff.2 hafter, List.isEmpty_nil]

/-- What follows the digits begins neither with a digit nor with a point. -/
lemma SpellsTail.head {cs : List Char} (h : SpellsTail cs) {c : Char} (hc : cs.head? = some c) :
    c.isDigit = false ∧ c ≠ '.' := by
  have hfirst : isBlank c = true ∨ c = 'm' := by
    obtain ⟨hgap, hunit, hafter⟩ := h
    rw [List.head?_append, List.head?_append, Option.or_eq_some_iff, Option.or_eq_some_iff] at hc
    rcases hc with hin | ⟨-, hin | ⟨-, hin⟩⟩
    · exact Or.inl (hgap c (List.mem_of_head? hin))
    · cases hunit with
      | nothing => simp at hin
      | mm => exact Or.inr (Option.some.inj hin).symm
    · exact Or.inl (hafter c (List.mem_of_head? hin))
  rcases hfirst with hblank | rfl
  · constructor
    · by_contra hdigit
      rw [isBlank_of_isDigit (by simpa using hdigit)] at hblank
      exact Bool.false_ne_true hblank
    · rintro rfl
      revert hblank
      decide
  · decide

/-! ## The number -/

lemma allDigits_takeWhile (cs : List Char) : AllDigits (cs.takeWhile Char.isDigit) :=
  fun _ => List.mem_takeWhile_imp

/-- Digits are taken up to the first character that is none. -/
lemma takeWhile_digits {digits rest : List Char} (hdigits : AllDigits digits)
    (hrest : ∀ c, rest.head? = some c → c.isDigit = false) :
    (digits ++ rest).takeWhile Char.isDigit = digits
      ∧ (digits ++ rest).dropWhile Char.isDigit = rest := by
  rw [List.takeWhile_append_of_pos hdigits, List.dropWhile_append_of_pos hdigits]
  cases rest with
  | nil => simp
  | cons c cs => simp [hrest c rfl]

/-- At most one sign is taken off. -/
lemma exists_sign (cs : List Char) :
    ∃ sign, SpellsSign sign (splitSign cs).1 ∧ cs = sign ++ (splitSign cs).2 := by
  simp only [splitSign]
  split
  · exact ⟨['-'], .minus, rfl⟩
  · exact ⟨['+'], .plus, rfl⟩
  · exact ⟨[], .nothing, rfl⟩

lemma SpellsDigits.head {number whole fraction : List Char}
    (h : SpellsDigits number whole fraction) :
    ∃ c rest, number = c :: rest ∧ (c.isDigit = true ∨ c = '.') := by
  cases h with
  | whole hdigits hne =>
      obtain ⟨c, rest, rfl⟩ := List.exists_cons_of_ne_nil hne
      exact ⟨c, rest, rfl, Or.inl (hdigits c List.mem_cons_self)⟩
  | pointed hdigits hne _ =>
      obtain ⟨c, rest, rfl⟩ := List.exists_cons_of_ne_nil hne
      exact ⟨c, _, rfl, Or.inl (hdigits c List.mem_cons_self)⟩
  | fraction _ _ => exact ⟨'.', _, rfl, Or.inr rfl⟩

lemma SpellsSign.noLeadingBlank {sign : List Char} {negative : Bool}
    (h : SpellsSign sign negative) :
    NoLeadingBlank sign := by
  cases h with
  | nothing => exact noLeadingBlank_nil
  | plus => exact noLeadingBlank_cons (by decide) []
  | minus => exact noLeadingBlank_cons (by decide) []

lemma SpellsDigits.noLeadingBlank_append {number whole fraction : List Char}
    (h : SpellsDigits number whole fraction) (rest : List Char) :
    NoLeadingBlank (number ++ rest) := by
  obtain ⟨c, cs, rfl, hdigit | rfl⟩ := h.head
  · exact noLeadingBlank_cons (isBlank_of_isDigit hdigit) _
  · exact noLeadingBlank_cons (by decide) _

/-- A number has no sign of its own. -/
lemma splitSign_append {sign number whole fraction : List Char} {negative : Bool}
    (hsign : SpellsSign sign negative)
    (hnumber : SpellsDigits number whole fraction) (rest : List Char) :
    splitSign (sign ++ (number ++ rest)) = (negative, number ++ rest) := by
  obtain ⟨c, cs, rfl, hc⟩ := hnumber.head
  cases hsign with
  | nothing =>
      rcases hc with hdigit | rfl
      · exact splitSign_of_isDigit hdigit _
      · rfl
  | plus => rfl
  | minus => rfl

/-- Digits before and behind a point, if there are any. -/
lemma decimal?_eq_some_iff {negative : Bool} {whole fraction : List Char} {d : Decimal} :
    decimal? negative whole fraction = some d
      ↔ (whole ≠ [] ∨ fraction ≠ []) ∧ d = decimalOf negative whole fraction := by
  simp only [decimal?]
  split
  · next hempty =>
      simp only [Bool.and_eq_true, List.isEmpty_iff] at hempty
      simp [hempty]
  · next hne =>
      simp only [Bool.and_eq_true, List.isEmpty_iff, not_and_or] at hne
      simp [hne, decimalOf, eq_comm]

/-- The three forms of a number are two: with a point and without. -/
lemma spellsDigits_iff {number whole fraction : List Char} :
    SpellsDigits number whole fraction ↔
      AllDigits whole ∧ AllDigits fraction ∧ (whole ≠ [] ∨ fraction ≠ [])
        ∧ (number = whole ++ '.' :: fraction ∨ number = whole ∧ fraction = []) := by
  constructor
  · intro h
    cases h with
    | whole hwhole hne => exact ⟨hwhole, by simp [AllDigits], Or.inl hne, Or.inr ⟨rfl, rfl⟩⟩
    | pointed hwhole hne hfraction => exact ⟨hwhole, hfraction, Or.inl hne, Or.inl rfl⟩
    | fraction hfraction hne => exact ⟨by simp [AllDigits], hfraction, Or.inr hne, Or.inl rfl⟩
  · rintro ⟨hwhole, hfraction, hne, rfl | ⟨rfl, rfl⟩⟩
    · by_cases hempty : whole = []
      · subst hempty
        exact .fraction hfraction (by simpa using hne)
      · exact .pointed hwhole hempty hfraction
    · exact .whole hwhole (by simpa using hne)

/-- **The reader takes a decimal**, and leaves what it leaves. -/
lemma spells_of_number? {cs rest : List Char} {d : Decimal} (h : number? cs = some (d, rest)) :
    ∃ sign number whole fraction negative, SpellsSign sign negative
      ∧ SpellsDigits number whole fraction
      ∧ cs = sign ++ (number ++ rest) ∧ d = decimalOf negative whole fraction := by
  obtain ⟨sign, hsign, hcs⟩ := exists_sign cs
  have hbody : (splitSign cs).2.takeWhile Char.isDigit ++ (splitSign cs).2.dropWhile Char.isDigit
      = (splitSign cs).2 := List.takeWhile_append_dropWhile
  have hwhole := allDigits_takeWhile (splitSign cs).2
  simp only [number?] at h
  split at h
  · next after hafter =>
      obtain ⟨d', hd', heq⟩ := Option.map_eq_some_iff.1 h
      obtain ⟨rfl, rfl⟩ := Prod.mk.inj heq
      obtain ⟨hne, hd⟩ := decimal?_eq_some_iff.1 hd'
      have hnumber := spellsDigits_iff.2 ⟨hwhole, allDigits_takeWhile after, hne, Or.inl rfl⟩
      refine ⟨sign, _, _, _, _, hsign, hnumber, ?_, hd⟩
      rw [List.append_assoc, List.cons_append, List.takeWhile_append_dropWhile, ← hafter, hbody]
      exact hcs
  · obtain ⟨d', hd', heq⟩ := Option.map_eq_some_iff.1 h
    obtain ⟨rfl, rfl⟩ := Prod.mk.inj heq
    obtain ⟨hne, hd⟩ := decimal?_eq_some_iff.1 hd'
    have hnumber := spellsDigits_iff.2 ⟨hwhole, by simp [AllDigits], hne, Or.inr ⟨rfl, rfl⟩⟩
    refine ⟨sign, _, _, _, _, hsign, hnumber, ?_, hd⟩
    rw [hbody]
    exact hcs

/-- **The reader takes every decimal**, up to what can not belong to it. -/
lemma number?_of_spells {sign number whole fraction rest : List Char} {negative : Bool}
    (hsign : SpellsSign sign negative) (hnumber : SpellsDigits number whole fraction)
    (hrest : ∀ c, rest.head? = some c → c.isDigit = false ∧ c ≠ '.') :
    number? (sign ++ (number ++ rest)) = some (decimalOf negative whole fraction, rest) := by
  have hdigit : ∀ c, rest.head? = some c → c.isDigit = false := fun c hc => (hrest c hc).1
  simp only [number?, splitSign_append hsign hnumber]
  obtain ⟨hwhole, hfraction, hne, rfl | ⟨rfl, rfl⟩⟩ := spellsDigits_iff.1 hnumber
  · have hpoint : ∀ c, ('.' :: (fraction ++ rest)).head? = some c → c.isDigit = false := by
      intro c hc
      rw [← Option.some.inj hc]
      decide
    obtain ⟨htake, hdrop⟩ := takeWhile_digits hwhole hpoint
    obtain ⟨htake', hdrop'⟩ := takeWhile_digits hfraction hdigit
    simp only [List.append_assoc, List.cons_append, htake, hdrop, htake', hdrop',
      decimal?_eq_some_iff.2 ⟨hne, rfl⟩, Option.map_some]
  · obtain ⟨htake, hdrop⟩ := takeWhile_digits hwhole hdigit
    rw [htake, hdrop]
    split
    · next hcs => exact absurd rfl (hrest '.' rfl).2
    · rw [decimal?_eq_some_iff.2 ⟨hne, rfl⟩, Option.map_some]

/-! ## The whole text -/

/-- **The reader accepts the grammar.** -/
theorem decimalOf?_eq_some_iff {cs : List Char} {d : Decimal} :
    decimalOf? cs = some d ↔ Spells (cs.map plainMinus) d := by
  generalize hplain : cs.map plainMinus = plain
  rw [decimalOf?, hplain]
  constructor
  · intro h
    split at h
    · next d' rest hnumber =>
        split at h
        · next htail =>
            obtain ⟨sign, number, whole, fraction, negative, hsign, hdigits, hbody, hd⟩ :=
              spells_of_number? hnumber
            rw [← takeWhile_append_dropBlanks plain, hbody, ← Option.some.inj h, hd]
            exact .intro (allBlank_takeWhile plain) hsign hdigits (isUnitTail_iff.1 htail)
        · simp at h
    · simp at h
  · rintro @⟨before, sign, number, whole, fraction, tail, negative, hbefore, hsign, hnumber, htail⟩
    have hbody := (hsign.noLeadingBlank).append (hnumber.noLeadingBlank_append tail)
    rw [dropBlanks_append hbefore hbody, number?_of_spells hsign hnumber fun c hc => htail.head hc]
    simp [isUnitTail_iff.2 htail]

/-- **A length is read exactly of the texts that spell a decimal, and it is the double nearest to
it.**  Among its characters there are then no other than ASCII digits, blanks, signs, the point and
the letter of the unit. -/
theorem length_read_iff_spelled (s : String) :
    (∀ mm : Double, parse? s = some mm ↔
        ∃ d, Spells (s.toList.map plainMinus) d ∧ mm.IsNearest d.negative d.digits (10 ^ d.places))
      ∧ (parse? s = none ↔ ¬ ∃ d, Spells (s.toList.map plainMinus) d)
      ∧ ∀ mm : Double, parse? s = some mm → ∀ c ∈ s.toList, IsPart c := by
  refine ⟨fun mm => ?_, ?_, fun mm hread c hc => ?_⟩
  · have hden (d : Decimal) : 0 < 10 ^ d.places := Nat.pow_pos (by decide)
    simp only [parse?, Option.map_eq_some_iff, decimalOf?_eq_some_iff, Decimal.nearest,
      Double.ofRatio_eq_iff (hden _)]
  · rw [parse?, Option.map_eq_none_iff, Option.eq_none_iff_forall_ne_some, not_exists]
    simp only [ne_eq, decimalOf?_eq_some_iff]
  · obtain ⟨d, hd, -⟩ := Option.map_eq_some_iff.1 hread
    exact isPart_of_mem hd hc

/-- Half a millimeter below zero: a minus outside ASCII, no digit before the point, and blanks. -/
theorem length_read_of_half_below_zero :
    Spells ("\u00A0\u2212.5 mm ".toList.map plainMinus) ⟨true, 5, 1⟩
      ∧ ∃ half : Double, half.IsNearest true 5 10 ∧ parse? "\u00A0\u2212.5 mm " = some half
        ∧ ∀ c ∈ "\u00A0\u2212.5 mm ".toList, IsPart c := by
  obtain ⟨hspelled, -, hparts⟩ := length_read_iff_spelled "\u00A0\u2212.5 mm "
  have hd : Spells ("\u00A0\u2212.5 mm ".toList.map plainMinus) ⟨true, 5, 1⟩ :=
    decimalOf?_eq_some_iff.1 (by decide)
  obtain ⟨half, hnearest⟩ := Double.exists_isNearest true 5 (by decide : 0 < 10)
  have hread : parse? "\u00A0\u2212.5 mm " = some half := (hspelled half).2 ⟨_, hd, hnearest⟩
  exact ⟨hd, half, hnearest, hread, hparts half hread⟩

/-- Two signs, a point alone, an exponent, a digit of another script, a fraction, an angle. -/
example : ["--5", ".", "1e3", "\u0663", "1/2\"", "45\u00B0"].map parse? = List.replicate 6 none :=
  by decide

end PanelKeys.Length.Millimeter
