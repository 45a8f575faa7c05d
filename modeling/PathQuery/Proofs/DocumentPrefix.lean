import Mathlib.Data.List.TakeWhile
import PathQuery.Json.Reader

/-!
# Documents in front of more text

What the readers of JSON make of a text does not change when more text is put behind it. Only a
number may go on with what follows, and so it must be followed by something already. A text that is
an array or an object is therefore no array or object any more with something behind it, white space
apart.
-/

namespace PathQuery

/-- The characters taken from the front of a text end in front of what follows them. -/
theorem Text.takeWhile_append_of_dropWhile {p : Char → Bool} {cs : List Char} (more : List Char)
    (h : cs.dropWhile p ≠ []) :
    (cs ++ more).takeWhile p = cs.takeWhile p ∧
      (cs ++ more).dropWhile p = cs.dropWhile p ++ more := by
  have hlength : (cs.takeWhile p).length ≠ cs.length := by
    intro he
    refine h (List.length_eq_zero_iff.1 ?_)
    have happend := congrArg List.length (List.takeWhile_append_dropWhile (p := p) (l := cs))
    rw [List.length_append] at happend
    omega
  rw [List.takeWhile_append, if_neg hlength, List.dropWhile_append, if_neg]
  · exact ⟨rfl, rfl⟩
  · exact fun hnil => h (List.isEmpty_iff.1 hnil)

namespace Json

open Text

variable {cs rest : List Char} (more : List Char)

theorem skipBlanks_append_of_cons {c : Char} (h : skipBlanks cs = c :: rest) :
    skipBlanks (cs ++ more) = c :: (rest ++ more) := by
  unfold skipBlanks at h ⊢
  rw [List.dropWhile_append, h]
  rfl

/-! ## Strings -/

theorem readString_append {pending : Option Nat} {text : List Char}
    (h : readString pending cs = some (text, rest)) :
    readString pending (cs ++ more) = some (text, rest ++ more) := by
  induction pending, cs using readString.induct generalizing text rest with
  | case1 => cases h
  | case2 pending a b c d cs ih ihPending =>
    simp only [List.cons_append]
    rw [readString] at h ⊢
    obtain ⟨unit, hunit, h⟩ := Option.bind_eq_some_iff.1 h
    refine Option.bind_eq_some_iff.2 ⟨unit, hunit, ?_⟩
    cases pending with
    | some high =>
      simp only at h ⊢
      split at h
      · next hlow =>
        obtain ⟨⟨text', rest'⟩, hread, he⟩ := Option.bind_eq_some_iff.1 h
        cases he
        rw [if_pos hlow, ih hread]
        rfl
      · cases h
    | none =>
      simp only at h ⊢
      split at h
      · next hhigh => rw [if_pos hhigh, ihPending unit h]
      · next hhigh =>
        split at h
        · cases h
        · next hlow =>
          obtain ⟨⟨text', rest'⟩, hread, he⟩ := Option.bind_eq_some_iff.1 h
          cases he
          rw [if_neg hhigh, if_neg hlow, ih hread]
          rfl
  | case3 pending e cs hunit hpending =>
    rw [readString.eq_3 _ _ _ hunit, if_pos hpending] at h
    cases h
  | case4 pending e cs hunit hpending ih =>
    rw [readString.eq_3 _ _ _ hunit, if_neg hpending] at h
    obtain ⟨c, hescape, h⟩ := Option.bind_eq_some_iff.1 h
    obtain ⟨⟨text', rest'⟩, hread, he⟩ := Option.bind_eq_some_iff.1 h
    cases he
    -- what looks like an escape by number then has too few digits, and `u` escapes nothing else
    have hunit' : ∀ a b c d tail, e = 'u' → cs ++ more = a :: b :: c :: d :: tail → False := by
      rintro a b c d tail rfl -
      cases hescape
    simp only [List.cons_append]
    rw [readString.eq_3 _ _ _ hunit', if_neg hpending, hescape, ih hread]
    rfl
  | case5 pending c cs hunit hescape hpending =>
    rw [readString.eq_4 _ _ _ hunit hescape, if_pos hpending] at h
    cases h
  | case6 pending cs hpending hunit hescape =>
    rw [readString.eq_4 _ _ _ hunit hescape, if_neg hpending, if_pos rfl] at h
    cases h
    rw [List.cons_append, readString.eq_4 _ _ _ (by simp) (by simp), if_neg hpending, if_pos rfl]
  | case7 pending c cs hunit hescape hpending hquote hcontrol =>
    rw [readString.eq_4 _ _ _ hunit hescape, if_neg hpending, if_neg hquote, if_pos hcontrol] at h
    cases h
  | case8 pending c cs hunit hescape hpending hquote hcontrol ih =>
    rw [readString.eq_4 _ _ _ hunit hescape, if_neg hpending, if_neg hquote, if_neg hcontrol] at h
    obtain ⟨⟨text', rest'⟩, hread, he⟩ := Option.bind_eq_some_iff.1 h
    cases he
    have hbackslash : c ≠ '\\' := fun hc => hcontrol (.inl hc)
    rw [List.cons_append, readString.eq_4 _ _ _ (by simp [hbackslash]) (by simp [hbackslash]),
      if_neg hpending, if_neg hquote, if_neg hcontrol, ih hread]
    rfl

/-! ## Numbers -/

/-- What is made of the digits at the front of a text, if there are any. -/
theorem digits_append {α : Type} (f : List Char → α) {a : α}
    (h : (if (cs.takeWhile Char.isDigit).isEmpty then none
      else some (f (cs.takeWhile Char.isDigit), cs.dropWhile Char.isDigit)) = some (a, rest))
    (hrest : rest ≠ []) :
    (if ((cs ++ more).takeWhile Char.isDigit).isEmpty then none
      else some (f ((cs ++ more).takeWhile Char.isDigit), (cs ++ more).dropWhile Char.isDigit)) =
        some (a, rest ++ more) := by
  split at h
  · cases h
  · next hdigits =>
    cases h
    obtain ⟨htake, hdrop⟩ := takeWhile_append_of_dropWhile more hrest
    rw [htake, if_neg hdigits, hdrop]

theorem readExponentDigits_append {exponent : Int}
    (h : readExponentDigits cs = some (exponent, rest)) (hrest : rest ≠ []) :
    readExponentDigits (cs ++ more) = some (exponent, rest ++ more) := by
  cases cs with
  | nil => cases h
  | cons c cs =>
    let value (digits : List Char) : Int := Nat.ofDigitChars 10 digits 0
    by_cases hminus : c = '-'
    · subst hminus
      exact digits_append more (fun digits => -value digits) h hrest
    by_cases hplus : c = '+'
    · subst hplus
      exact digits_append more value h hrest
    have hplain (tail : List Char) : readExponentDigits (c :: tail) =
        if ((c :: tail).takeWhile Char.isDigit).isEmpty then none
        else some (value ((c :: tail).takeWhile Char.isDigit), (c :: tail).dropWhile Char.isDigit) := by
      unfold readExponentDigits
      split
      next hsign =>
      split at hsign
      · next he => exact absurd (List.cons.inj he).1 hminus
      · next he => exact absurd (List.cons.inj he).1 hplus
      · cases hsign
        rfl
    rw [hplain] at h
    rw [List.cons_append, hplain]
    exact digits_append more value h hrest

/-- The exponent behind a fraction, or behind digits that have none. -/
theorem exponent_append {fraction : Option (List Char)} {tail : Option (List Char × Int)}
    (h : (match cs with
      | c :: after =>
        if c = 'e' ∨ c = 'E' then
          (readExponentDigits after).map fun (e, rest) => (some (fraction.getD [], e), rest)
        else some (fraction.map (·, 0), cs)
      | [] => some (fraction.map (·, 0), cs)) = some (tail, rest)) (hrest : rest ≠ []) :
    (match cs ++ more with
      | c :: after =>
        if c = 'e' ∨ c = 'E' then
          (readExponentDigits after).map fun (e, rest) => (some (fraction.getD [], e), rest)
        else some (fraction.map (·, 0), cs ++ more)
      | [] => some (fraction.map (·, 0), cs ++ more)) = some (tail, rest ++ more) := by
  cases cs with
  | nil =>
    cases h
    exact absurd rfl hrest
  | cons c cs =>
    simp only [List.cons_append] at h ⊢
    split at h
    · next hletter =>
      obtain ⟨⟨e, rest'⟩, hread, he⟩ := Option.map_eq_some_iff.1 h
      cases he
      rw [if_pos hletter, readExponentDigits_append more hread hrest]
      rfl
    · next hletter =>
      cases h
      rw [if_neg hletter]
      rfl

theorem readFraction_append {tail : Option (List Char × Int)}
    (h : readFraction cs = some (tail, rest)) (hrest : rest ≠ []) :
    readFraction (cs ++ more) = some (tail, rest ++ more) := by
  cases cs with
  | nil =>
    cases h
    exact absurd rfl hrest
  | cons c cs =>
    by_cases hpoint : c = '.'
    · subst hpoint
      obtain ⟨⟨fraction, after⟩, hdigits, h⟩ := Option.bind_eq_some_iff.1 h
      have hafter : after ≠ [] := by
        rintro rfl
        cases h
        exact hrest rfl
      have hdigits' := digits_append more some hdigits hafter
      exact Option.bind_eq_some_iff.2 ⟨_, hdigits', exponent_append more h hrest⟩
    · have hplain (tail : List Char) : readFraction (c :: tail) =
          if c = 'e' ∨ c = 'E' then
            (readExponentDigits tail).map fun (e, rest) => (some ([], e), rest)
          else some (none, c :: tail) := by
        unfold readFraction
        split
        next he => exact absurd (List.cons.inj he).1 hpoint
        next => rfl
      rw [hplain] at h
      rw [List.cons_append, hplain]
      exact @exponent_append (c :: cs) _ more none _ h hrest

theorem readNumber_append {negative : Bool} {j : Json}
    (h : readNumber negative cs = some (j, rest)) (hrest : rest ≠ []) :
    readNumber negative (cs ++ more) = some (j, rest ++ more) := by
  simp only [readNumber] at h
  split at h
  · cases h
  next hdigits =>
  obtain ⟨⟨tail, after⟩, hfraction, h⟩ := Option.bind_eq_some_iff.1 h
  have hafter : after = rest := by
    cases tail with
    | none | some tail =>
      obtain ⟨j', -, he⟩ := Option.map_eq_some_iff.1 h
      cases he
      rfl
  subst hafter
  have hdrop : cs.dropWhile Char.isDigit ≠ [] := by
    intro hnil
    rw [hnil] at hfraction
    cases hfraction
    exact hrest rfl
  obtain ⟨htake, hdropped⟩ := takeWhile_append_of_dropWhile more hdrop
  simp only [readNumber, htake, hdropped, if_neg hdigits, readFraction_append more hfraction hrest]
  cases tail with
  | none =>
    obtain ⟨j', hj, he⟩ := Option.map_eq_some_iff.1 h
    cases he
    exact Option.map_eq_some_iff.2 ⟨_, hj, rfl⟩
  | some tail =>
    obtain ⟨j', hj, he⟩ := Option.map_eq_some_iff.1 h
    cases he
    exact Option.map_eq_some_iff.2 ⟨_, hj, rfl⟩

/-- A number starts with a digit, its sign apart. -/
theorem exists_of_readNumber {negative : Bool} {j : Json}
    (h : readNumber negative cs = some (j, rest)) :
    ∃ d tail, cs = d :: tail ∧ d.isDigit = true := by
  simp only [readNumber] at h
  split at h
  · cases h
  next hdigits =>
  cases cs with
  | nil => exact absurd rfl hdigits
  | cons d tail =>
    refine ⟨d, tail, rfl, ?_⟩
    cases hd : d.isDigit with
    | true => rfl
    | false =>
      rw [List.takeWhile_cons_of_neg (by simp [hd])] at hdigits
      exact absurd rfl hdigits

/-! ## Documents -/

/-- Whether a text starts with an array or an object, blanks apart. -/
def StartsContainer (cs : List Char) : Prop :=
  ∃ tail, skipBlanks cs = '[' :: tail ∨ skipBlanks cs = '\x7b' :: tail

/-- What is read with one amount of fuel is read in front of more text, with another amount. -/
structure ReadsOn (more : List Char) (fuel fuel' : Nat) : Prop where
  value {nesting : Nat} {cs rest : List Char} {j : Json} :
    readValue fuel nesting cs = some (j, rest) → rest ≠ [] ∨ StartsContainer cs →
      readValue fuel' nesting (cs ++ more) = some (j, rest ++ more)
  items {nesting : Nat} {cs rest : List Char} {items : List Json} :
    readItems fuel nesting cs = some (items, rest) →
      readItems fuel' nesting (cs ++ more) = some (items, rest ++ more)
  members {nesting : Nat} {cs rest : List Char} {members : List (String × Json)} :
    readMembers fuel nesting cs = some (members, rest) →
      readMembers fuel' nesting (cs ++ more) = some (members, rest ++ more)

/-- In front of a digit there is nothing but a number to read. -/
theorem readValue_of_isDigit {fuel nesting : Nat} {d : Char} (h : skipBlanks cs = d :: rest)
    (hd : d.isDigit = true) : readValue (fuel + 1) nesting cs = readNumber false (d :: rest) := by
  rw [readValue.eq_def]
  simp only [h]
  split
  case h_8 => rfl
  all_goals
    next he =>
      rw [(List.cons.inj he).1] at hd
      exact absurd hd (by decide)

theorem ne_nil_of_readItems {fuel nesting : Nat} {items : List Json}
    (h : readItems fuel nesting cs = some (items, rest)) : cs ≠ [] := by
  rintro rfl
  cases fuel with
  | zero => cases h
  | succ fuel => cases fuel <;> cases h

theorem ne_nil_of_readMembers {fuel nesting : Nat} {members : List (String × Json)}
    (h : readMembers fuel nesting cs = some (members, rest)) : cs ≠ [] := by
  rintro rfl
  cases fuel <;> cases h

namespace ReadsOn

variable {more} {fuel fuel' nesting : Nat} (hon : ReadsOn more fuel fuel')

include hon

/-- The elements of an array behind its opening bracket. -/
theorem readArray {j : Json}
    (h : (match skipBlanks cs with
      | ']' :: rest => some (.array [], rest)
      | rest => (readItems fuel nesting rest).map fun (items, rest) => (.array items, rest)) =
        some (j, rest)) :
    (match skipBlanks (cs ++ more) with
      | ']' :: rest => some (.array [], rest)
      | rest => (readItems fuel' nesting rest).map fun (items, rest) => (.array items, rest)) =
        some (j, rest ++ more) := by
  split at h
  · next hcs =>
    cases h
    simp only [skipBlanks_append_of_cons more hcs]
  · next hclose =>
    obtain ⟨⟨items, after⟩, hread, he⟩ := Option.map_eq_some_iff.1 h
    cases he
    obtain ⟨c, tail, hcs⟩ := List.exists_cons_of_ne_nil (ne_nil_of_readItems hread)
    rw [hcs] at hread
    rw [skipBlanks_append_of_cons more hcs]
    split
    · next he =>
      cases he
      exact absurd hcs (hclose tail)
    · rw [← List.cons_append, hon.items hread]
      rfl

/-- The members of an object behind its opening brace. -/
theorem readObject {j : Json}
    (h : (match skipBlanks cs with
      | '\x7d' :: rest => some (.object [], rest)
      | rest => (readMembers fuel nesting rest).map fun (members, rest) =>
          (.object (Fields.ofList members), rest)) = some (j, rest)) :
    (match skipBlanks (cs ++ more) with
      | '\x7d' :: rest => some (.object [], rest)
      | rest => (readMembers fuel' nesting rest).map fun (members, rest) =>
          (.object (Fields.ofList members), rest)) = some (j, rest ++ more) := by
  split at h
  · next hcs =>
    cases h
    simp only [skipBlanks_append_of_cons more hcs]
  · next hclose =>
    obtain ⟨⟨members, after⟩, hread, he⟩ := Option.map_eq_some_iff.1 h
    cases he
    obtain ⟨c, tail, hcs⟩ := List.exists_cons_of_ne_nil (ne_nil_of_readMembers hread)
    rw [hcs] at hread
    rw [skipBlanks_append_of_cons more hcs]
    split
    · next he =>
      cases he
      exact absurd hcs (hclose tail)
    · rw [← List.cons_append, hon.members hread]
      rfl

theorem readValue_succ {j : Json} (h : readValue (fuel + 1) nesting cs = some (j, rest))
    (hrest : rest ≠ [] ∨ StartsContainer cs) :
    readValue (fuel' + 1) nesting (cs ++ more) = some (j, rest ++ more) := by
  have hne {c : Char} {tail : List Char} (hcs : skipBlanks cs = c :: tail)
      (hc : c ≠ '[' ∧ c ≠ '\x7b') : rest ≠ [] := by
    refine hrest.resolve_right fun ⟨tail', htail⟩ => ?_
    rw [hcs] at htail
    exact htail.elim (fun he => hc.1 (List.cons.inj he).1) fun he => hc.2 (List.cons.inj he).1
  rw [readValue.eq_def] at h
  simp only at h
  split at h
  · next hcs =>
    cases h
    rw [readValue, skipBlanks_append_of_cons more hcs]
    rfl
  · next hcs =>
    cases h
    rw [readValue, skipBlanks_append_of_cons more hcs]
    rfl
  · next hcs =>
    cases h
    rw [readValue, skipBlanks_append_of_cons more hcs]
    rfl
  · next hcs =>
    obtain ⟨⟨s, after⟩, hread, he⟩ := Option.map_eq_some_iff.1 h
    cases he
    rw [readValue, skipBlanks_append_of_cons more hcs]
    simp only [readString_append more hread]
    rfl
  · next hcs =>
    rw [readValue, skipBlanks_append_of_cons more hcs]
    exact readNumber_append more h (hne hcs (by decide))
  · next hcs =>
    rw [readValue, skipBlanks_append_of_cons more hcs]
    cases nesting with
    | zero => cases h
    | succ nesting => exact hon.readArray h
  · next hcs =>
    rw [readValue, skipBlanks_append_of_cons more hcs]
    cases nesting with
    | zero => cases h
    | succ nesting => exact hon.readObject h
  · obtain ⟨d, tail, hcs, hd⟩ := exists_of_readNumber h
    rw [hcs] at h
    rw [readValue_of_isDigit (skipBlanks_append_of_cons more hcs) hd]
    have hother (c : Char) (hc : c.isDigit = false) : d ≠ c := by
      rintro rfl
      rw [hd] at hc
      cases hc
    exact readNumber_append more h (hne hcs ⟨hother _ rfl, hother _ rfl⟩)

theorem readItems_succ {items : List Json}
    (h : readItems (fuel + 1) nesting cs = some (items, rest)) :
    readItems (fuel' + 1) nesting (cs ++ more) = some (items, rest ++ more) := by
  rw [readItems] at h ⊢
  obtain ⟨⟨item, after⟩, hitem, h⟩ := Option.bind_eq_some_iff.1 h
  have hafter : after ≠ [] := by
    rintro rfl
    cases h
  rw [hon.value hitem (.inl hafter), Option.bind_some]
  simp only at h
  split at h
  · next hcs =>
    obtain ⟨⟨items', after'⟩, hread, he⟩ := Option.map_eq_some_iff.1 h
    cases he
    simp only [skipBlanks_append_of_cons more hcs, hon.items hread]
    rfl
  · next hcs =>
    cases h
    simp only [skipBlanks_append_of_cons more hcs]
  · cases h

theorem readMembers_succ {members : List (String × Json)}
    (h : readMembers (fuel + 1) nesting cs = some (members, rest)) :
    readMembers (fuel' + 1) nesting (cs ++ more) = some (members, rest ++ more) := by
  rw [readMembers] at h ⊢
  split at h
  · next hquote =>
    obtain ⟨⟨key, behindKey⟩, hkey, h⟩ := Option.bind_eq_some_iff.1 h
    simp only [skipBlanks_append_of_cons more hquote, readString_append more hkey, Option.bind_some]
    simp only at h
    split at h
    · next hcolon =>
      obtain ⟨⟨value, after⟩, hvalue, h⟩ := Option.bind_eq_some_iff.1 h
      have hafter : after ≠ [] := by
        rintro rfl
        cases h
      simp only [skipBlanks_append_of_cons more hcolon, hon.value hvalue (.inl hafter),
        Option.bind_some]
      simp only at h
      split at h
      · next hcs =>
        obtain ⟨⟨members', after'⟩, hread, he⟩ := Option.map_eq_some_iff.1 h
        cases he
        simp only [skipBlanks_append_of_cons more hcs, hon.members hread]
        rfl
      · next hcs =>
        cases h
        simp only [skipBlanks_append_of_cons more hcs]
      · cases h
    · cases h
  · cases h

end ReadsOn

theorem readsOn {fuel fuel' : Nat} (hfuel : fuel ≤ fuel') : ReadsOn more fuel fuel' := by
  induction fuel generalizing fuel' with
  | zero => constructor <;> (intros; contradiction)
  | succ fuel ih =>
    cases fuel' with
    | zero => exact absurd hfuel (Nat.not_succ_le_zero fuel)
    | succ fuel' =>
      have hon := ih (Nat.le_of_succ_le_succ hfuel)
      exact ⟨hon.readValue_succ, hon.readItems_succ, hon.readMembers_succ⟩

/-- Nothing but blanks can stand behind an array or an object for it to be read still. -/
theorem skipBlanks_eq_nil_of_ofChars? {j j' : Json} (hcs : StartsContainer cs)
    (h : ofChars? cs = some j) (h' : ofChars? (cs ++ more) = some j') : skipBlanks more = [] := by
  obtain ⟨⟨value, rest⟩, hread, h⟩ := Option.bind_eq_some_iff.1 h
  obtain ⟨⟨value', rest'⟩, hread', h'⟩ := Option.bind_eq_some_iff.1 h'
  have hfuel : 2 * cs.length + 2 ≤ 2 * (cs ++ more).length + 2 := by
    rw [List.length_append]
    omega
  rw [(readsOn more hfuel).value hread (.inr hcs)] at hread'
  cases hread'
  simp only [Option.ite_none_right_eq_some] at h h'
  have hrest : skipBlanks rest = [] := List.isEmpty_iff.1 h.1
  have hboth := List.isEmpty_iff.1 h'.1
  rw [skipBlanks, List.dropWhile_append] at hboth
  unfold skipBlanks at hrest
  rw [hrest] at hboth
  exact hboth

end Json

end PathQuery
