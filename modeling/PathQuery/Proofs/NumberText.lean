import PathQuery.Expr.LiteralText
import PathQuery.Query.Rendering

/-!
# The texts of numbers

An integer is written with digits and perhaps a hyphen, and reads back. A finite float is
written with a point among its digits or with an exponent, so that it is never taken for an
integer; a hyphen stands at its front or right behind the `e` of its exponent.
-/

namespace PathQuery.Number

/-- At least one digit and nothing else. -/
structure IsDigits (cs : List Char) : Prop where
  ne_nil : cs ≠ []
  isDigit : ∀ c ∈ cs, c.isDigit = true

theorem isDigits_natText (n : Nat) : IsDigits (natText n) :=
  ⟨Nat.toDigits_ne_nil, fun _ hc => Nat.isDigit_of_mem_toDigits (by decide) (by decide) hc⟩

theorem IsDigits.append {cs ds : List Char} (hc : IsDigits cs)
    (hd : ∀ d ∈ ds, d.isDigit = true) : IsDigits (cs ++ ds) := by
  refine ⟨List.append_ne_nil_of_left_ne_nil hc.ne_nil ds, fun c h => ?_⟩
  rcases List.mem_append.1 h with h | h
  · exact hc.isDigit c h
  · exact hd c h

theorem IsDigits.exists_cons {cs : List Char} (h : IsDigits cs) :
    ∃ d rest, cs = d :: rest ∧ d.isDigit = true := by
  obtain ⟨d, rest, rfl⟩ := List.exists_cons_of_ne_nil h.ne_nil
  exact ⟨d, rest, rfl, h.isDigit d List.mem_cons_self⟩

theorem IsDigits.exists_concat {cs : List Char} (h : IsDigits cs) :
    ∃ front d, cs = front ++ [d] ∧ d.isDigit = true := by
  have hd := h.isDigit _ (List.getLast_mem h.ne_nil)
  exact ⟨_, _, (List.dropLast_concat_getLast h.ne_nil).symm, hd⟩

theorem ne_of_isDigit {c d : Char} (hc : c.isDigit = true) (hd : d.isDigit = false) : c ≠ d := by
  rintro rfl
  rw [hc] at hd
  cases hd

/-! ## Integers -/

theorem toList_toString (n : Int64) : (toString n).toList = intText n.toInt := by
  show (toString n.toInt).toList = intText n.toInt
  cases n.toInt with
  | ofNat m => exact String.toList_ofList
  | negSucc m =>
    show ("-" ++ String.ofList (Nat.toDigits 10 (m + 1))).toList = _
    simp [intText, natText]

theorem readInt_of_isDigit {d : Char} (hd : d.isDigit = true) (cs : List Char) :
    readInt (d :: cs) = (readNat (d :: cs)).map Int.ofNat := by
  rw [readInt.eq_3 _ _ _]
  · exact fun rest h => ne_of_isDigit hd (by decide) (List.cons.inj h).1
  · exact fun rest h => ne_of_isDigit hd (by decide) (List.cons.inj h).1

/-- A text that starts with neither a sign nor a digit is no integer. -/
theorem readInt64_cons_eq_none {c : Char} (hminus : c ≠ '-') (hplus : c ≠ '+')
    (hdigit : c.isDigit = false) (cs : List Char) : readInt64 (c :: cs) = none := by
  rw [readInt64, readInt.eq_3 _ (by simp [hminus]) (by simp [hplus]), readNat]
  simp [hdigit]

theorem readInt_intText (n : Int) : readInt (intText n) = some n := by
  cases n with
  | ofNat n =>
    obtain ⟨d, rest, hcs, hd⟩ := (isDigits_natText n).exists_cons
    rw [intText, hcs, readInt_of_isDigit hd, ← hcs, readNat_natText]
    rfl
  | negSucc n =>
    rw [intText, readInt, readNat_natText]
    rfl

theorem readInt64_intText (k : Int64) : readInt64 (intText k.toInt) = some k := by
  rw [readInt64, readInt_intText, Option.bind_some, ofInt?_toInt]

/-- A non-negative integer is written with digits only. -/
theorem isDigits_intText {n : Int} (h : 0 ≤ n) : IsDigits (intText n) := by
  cases n with
  | ofNat n => exact isDigits_natText n
  | negSucc n => exact absurd h (by omega)

/-- A negative integer is written as a hyphen and digits. -/
theorem exists_intText_eq_cons {n : Int} (h : n < 0) :
    ∃ digits, intText n = '-' :: digits ∧ IsDigits digits := by
  cases n with
  | ofNat n => exact absurd h (by simp)
  | negSucc n => exact ⟨_, rfl, isDigits_natText _⟩

theorem mem_intText {n : Int} {c : Char} (h : c ∈ intText n) : c.isDigit = true ∨ c = '-' := by
  by_cases hn : 0 ≤ n
  · exact .inl ((isDigits_intText hn).isDigit c h)
  · obtain ⟨digits, htext, hdigits⟩ := exists_intText_eq_cons (n := n) (by omega)
    rw [htext] at h
    rcases List.mem_cons.1 h with rfl | h
    · exact .inr rfl
    · exact .inl (hdigits.isDigit c h)

theorem exists_intText_eq_concat (n : Int) :
    ∃ front d, intText n = front ++ [d] ∧ d.isDigit = true := by
  by_cases hn : 0 ≤ n
  · exact (isDigits_intText hn).exists_concat
  · obtain ⟨digits, htext, hdigits⟩ := exists_intText_eq_cons (n := n) (by omega)
    obtain ⟨front, d, rfl, hd⟩ := hdigits.exists_concat
    exact ⟨'-' :: front, d, htext, hd⟩

/-! ## Texts that are no numbers -/

theorem exists_dropWhile_concat {q : Char → Bool} {d : Char} (hd : q d = false) (front : List Char) :
    ∃ rest, (front ++ [d]).dropWhile q = rest ++ [d] := by
  rw [List.dropWhile_append]
  split
  · exact ⟨[], List.dropWhile_cons_of_neg (by simp [hd])⟩
  · exact ⟨_, rfl⟩

theorem readNat_eq_none_of_mem {cs : List Char} {c : Char} (hc : c ∈ cs) (h : c.isDigit = false) :
    readNat cs = none := by
  have hall : cs.all Char.isDigit = false := List.all_eq_false.2 ⟨c, hc, by simp [h]⟩
  rw [readNat, hall]
  split <;> rfl

section NoNumber

variable {d : Char} (hd : d.isDigit = false)

include hd

theorem readInt_concat_eq_none (front : List Char) : readInt (front ++ [d]) = none := by
  cases front with
  | nil =>
    have hnat : readNat [d] = none := readNat_eq_none_of_mem List.mem_cons_self hd
    rw [List.nil_append]
    unfold readInt
    split
    · next he => rw [← (List.cons.inj he).2]; rfl
    · next he => rw [← (List.cons.inj he).2]; rfl
    · rw [hnat]; rfl
  | cons c front =>
    have hmem : d ∈ front ++ [d] := List.mem_append_right _ List.mem_cons_self
    rw [List.cons_append]
    unfold readInt
    split
    · next he => rw [← (List.cons.inj he).2, readNat_eq_none_of_mem hmem hd]; rfl
    · next he => rw [← (List.cons.inj he).2, readNat_eq_none_of_mem hmem hd]; rfl
    · rw [readNat_eq_none_of_mem (List.mem_cons_of_mem _ hmem) hd]; rfl

theorem readExponent_concat_eq_none (front : List Char) : readExponent (front ++ [d]) = none := by
  cases front with
  | nil =>
    rw [List.nil_append, readExponent]
    split <;> rfl
  | cons c front =>
    rw [List.cons_append, readExponent, readInt_concat_eq_none hd]
    split <;> rfl

/-- What ends in something that is neither a digit nor a point is no decimal number. -/
theorem readDecimal_concat_eq_none (hpoint : d ≠ '.') (front : List Char) :
    readDecimal (front ++ [d]) = none := by
  obtain ⟨rest, hrest⟩ := exists_dropWhile_concat hd front
  unfold readDecimal
  dsimp only
  rw [hrest]
  split
  · next after he =>
    obtain ⟨between, hafter⟩ : ∃ between, after = between ++ [d] := by
      cases rest with
      | nil => exact absurd (List.cons.inj he).1 hpoint
      | cons c between => exact ⟨between, (List.cons.inj he).2.symm⟩
    obtain ⟨exponent, hexponent⟩ := exists_dropWhile_concat hd between
    dsimp only
    rw [hafter, hexponent, readExponent_concat_eq_none hd]
    split <;> rfl
  · dsimp only
    rw [readExponent_concat_eq_none hd]
    split <;> rfl

end NoNumber

/-! ## Floats -/

/-- The texts of floats without their sign. -/
inductive IsMagnitude : List Char → Prop
  | positional {whole fraction : List Char} : IsDigits whole → IsDigits fraction →
      IsMagnitude (whole ++ '.' :: fraction)
  | exponential {whole : List Char} (lead : Int) : IsDigits whole →
      IsMagnitude (whole ++ 'e' :: intText lead)
  | exponentialPoint {whole fraction : List Char} (lead : Int) : IsDigits whole →
      IsDigits fraction → IsMagnitude (whole ++ '.' :: (fraction ++ 'e' :: intText lead))

theorem isMagnitude_positional {digits : List Char} (hdigits : IsDigits digits) (lead : Int) :
    IsMagnitude (FloatStyle.positional digits lead) := by
  have hzeros (n : Nat) : ∀ c ∈ List.replicate n '0', c.isDigit = true := by
    intro c hc
    rw [List.eq_of_mem_replicate hc]
    rfl
  unfold FloatStyle.positional
  by_cases hlead : lead < 0
  · rw [if_pos hlead]
    have hwhole : IsDigits ['0'] := ⟨by simp, List.all_eq_true.1 rfl⟩
    refine .positional hwhole ⟨?_, fun c hc => ?_⟩
    · exact List.append_ne_nil_of_right_ne_nil _ hdigits.ne_nil
    · rcases List.mem_append.1 hc with hc | hc
      · exact hzeros _ c hc
      · exact hdigits.isDigit c hc
  · rw [if_neg hlead]
    dsimp only
    by_cases hlength : digits.length ≤ lead.toNat + 1
    · rw [if_pos hlength]
      have hfraction : IsDigits ['0'] := ⟨by simp, List.all_eq_true.1 rfl⟩
      exact .positional (hdigits.append (hzeros _)) hfraction
    · rw [if_neg hlength]
      refine .positional ⟨?_, fun c hc => hdigits.isDigit c (List.mem_of_mem_take hc)⟩
        ⟨?_, fun c hc => hdigits.isDigit c (List.mem_of_mem_drop hc)⟩
      · rw [Ne, List.take_eq_nil_iff]
        exact fun h => h.elim (by omega) hdigits.ne_nil
      · rw [Ne, List.drop_eq_nil_iff]
        omega

theorem isMagnitude_exponential {digits : List Char} (hdigits : IsDigits digits) (lead : Int) :
    IsMagnitude (FloatStyle.literal.exponential digits lead) := by
  obtain ⟨d, rest, rfl, hd⟩ := hdigits.exists_cons
  have hhead : IsDigits [d] := ⟨by simp, by simp [hd]⟩
  cases rest with
  | nil => exact .exponential lead hhead
  | cons e rest =>
    have hfraction : IsDigits (e :: rest) :=
      ⟨by simp, fun c hc => hdigits.isDigit c (List.mem_cons_of_mem _ hc)⟩
    exact .exponentialPoint lead hhead hfraction

theorem isMagnitude_layOut (x : Scientific) : IsMagnitude (FloatStyle.literal.layOut x) := by
  unfold FloatStyle.layOut
  dsimp only
  split
  · exact isMagnitude_positional (isDigits_natText _) _
  · exact isMagnitude_exponential (isDigits_natText _) _

/-- A finite float in an expression: its sign, and digits with a point or an exponent. -/
theorem exists_write_eq {x : Float} (hx : x.isFinite = true) :
    ∃ body, IsMagnitude body ∧
      FloatStyle.literal.write x = if isSignNegative x then '-' :: body else body := by
  have hdigit : IsDigits ['0'] := ⟨by simp, List.all_eq_true.1 rfl⟩
  have hzero : IsMagnitude "0.0".toList := .positional hdigit hdigit
  have hfinite : x.toModel.unpack.isFinite = true := hx
  unfold FloatStyle.write isSignNegative
  cases hunpack : x.toModel.unpack with
  | notANumber => rw [hunpack] at hfinite; cases hfinite
  | infinity s => rw [hunpack] at hfinite; cases hfinite
  | zero s => cases s <;> exact ⟨_, hzero, rfl⟩
  | finite s mantissa exponent h => cases s <;> exact ⟨_, isMagnitude_layOut _, rfl⟩

namespace IsMagnitude

variable {cs : List Char}

theorem exists_cons (h : IsMagnitude cs) : ∃ d rest, cs = d :: rest ∧ d.isDigit = true := by
  cases h with
  | positional hwhole | exponential _ hwhole | exponentialPoint _ hwhole =>
    obtain ⟨d, rest, rfl, hd⟩ := hwhole.exists_cons
    exact ⟨d, _, rfl, hd⟩

theorem exists_concat (h : IsMagnitude cs) : ∃ front d, cs = front ++ [d] ∧ d.isDigit = true := by
  cases h with
  | @positional whole fraction hwhole hfraction =>
    obtain ⟨front, d, rfl, hd⟩ := hfraction.exists_concat
    exact ⟨whole ++ '.' :: front, d, by simp, hd⟩
  | @exponential whole lead hwhole =>
    obtain ⟨front, d, htext, hd⟩ := exists_intText_eq_concat lead
    exact ⟨whole ++ 'e' :: front, d, by simp [htext], hd⟩
  | @exponentialPoint whole fraction lead hwhole hfraction =>
    obtain ⟨front, d, htext, hd⟩ := exists_intText_eq_concat lead
    exact ⟨whole ++ '.' :: (fraction ++ 'e' :: front), d, by simp [htext], hd⟩

theorem mem (h : IsMagnitude cs) {c : Char} (hc : c ∈ cs) :
    c.isDigit = true ∨ c ∈ ['.', 'e', '-'] := by
  cases h with
  | positional hwhole hfraction =>
    simp only [List.mem_append, List.mem_cons] at hc
    rcases hc with hc | rfl | hc
    · exact .inl (hwhole.isDigit c hc)
    · simp
    · exact .inl (hfraction.isDigit c hc)
  | exponential lead hwhole =>
    simp only [List.mem_append, List.mem_cons] at hc
    rcases hc with hc | rfl | hc
    · exact .inl (hwhole.isDigit c hc)
    · simp
    · rcases mem_intText hc with hc | rfl
      · exact .inl hc
      · simp
  | exponentialPoint lead hwhole hfraction =>
    simp only [List.mem_append, List.mem_cons] at hc
    rcases hc with hc | rfl | hc | rfl | hc
    · exact .inl (hwhole.isDigit c hc)
    · simp
    · exact .inl (hfraction.isDigit c hc)
    · simp
    · rcases mem_intText hc with hc | rfl
      · exact .inl hc
      · simp

theorem readNat_eq_none (h : IsMagnitude cs) : readNat cs = none := by
  obtain ⟨c, hmem, hc⟩ : ∃ c ∈ cs, c.isDigit = false := by
    cases h with
    | positional => exact ⟨'.', by simp, rfl⟩
    | exponential => exact ⟨'e', by simp, rfl⟩
    | exponentialPoint => exact ⟨'e', by simp, rfl⟩
  exact readNat_eq_none_of_mem hmem hc

/-- A float is not read as an integer, with or without a sign. -/
theorem readInt64_eq_none (h : IsMagnitude cs) :
    readInt64 cs = none ∧ readInt64 ('-' :: cs) = none := by
  constructor
  · obtain ⟨d, rest, hcs, hd⟩ := h.exists_cons
    rw [readInt64, hcs, readInt_of_isDigit hd, ← hcs, h.readNat_eq_none]
    rfl
  · rw [readInt64, readInt, h.readNat_eq_none]
    rfl

theorem looksNumeric (h : IsMagnitude cs) :
    Literal.looksNumeric cs = true ∧ Literal.looksNumeric ('-' :: cs) = true := by
  obtain ⟨d, rest, rfl, hd⟩ := h.exists_cons
  have hall : (d :: rest).all (fun c => c.isDigit || c ∈ ['.', 'e', 'E', '+', '-']) = true := by
    rw [List.all_eq_true]
    intro c hc
    rcases h.mem hc with hc | hc
    · simp [hc]
    · simp only [List.mem_cons, List.not_mem_nil, or_false] at hc
      rcases hc with rfl | rfl | rfl <;> decide
  have hsign : ¬(d = '-' ∨ d = '+') := by
    rintro (rfl | rfl) <;> exact absurd hd (by decide)
  constructor
  · rw [Literal.looksNumeric]
    simp only [if_neg hsign, List.head?_cons, Option.any_some, hd, hall, List.any_cons, Bool.true_or,
      Bool.and_self]
  · rw [Literal.looksNumeric]
    simp only [true_or, if_true, List.head?_cons, Option.any_some, hd, hall, List.any_cons,
      Bool.true_or, Bool.and_self]

end IsMagnitude

end PathQuery.Number
