import PathQuery.Query.Rendering
import PathQuery.Text.Balanced

/-!
# Counting brackets

The readers of brackets and of parentheses go through a text alike: outside quotes they count
what opens and closes, and inside quotes a backslash hides the next character. `Counter` is
that reader on its own, one character at a time, and the main statements here say that
`takeBracket`, `takeParenthesis` and `parenthesesBalance` stop where the count does. A text
that is `Closed` can stand inside any bracket without being noticed.
-/

namespace PathQuery.Text

/-- Where a reader is with respect to quotes; `escaped` is right after a backslash. -/
inductive Quoting where
  | outside
  | inside (mark : Char)
  | escaped (mark : Char)
deriving DecidableEq, Repr

/-- The quotes a reader is in when `mark` closes them. -/
def Quoting.of : Option Char → Quoting
  | none => .outside
  | some mark => .inside mark

/-- The characters that a reader counts. -/
structure Delimiters where
  opens : Char → Bool
  closes : Char → Bool
  isQuote_of_opens {c : Char} : opens c = true → isQuote c = false
  isQuote_of_closes {c : Char} : closes c = true → isQuote c = false
  closes_of_opens {c : Char} : opens c = true → closes c = false

/-- Brackets, parentheses and braces, all counted together. -/
def Delimiters.brackets : Delimiters where
  opens := isOpening
  closes := isClosing
  isQuote_of_opens h := by
    simp only [isOpening, Bool.or_eq_true, decide_eq_true_eq] at h
    rcases h with (rfl | rfl) | rfl <;> decide
  isQuote_of_closes h := by
    simp only [isClosing, Bool.or_eq_true, decide_eq_true_eq] at h
    rcases h with (rfl | rfl) | rfl <;> decide
  closes_of_opens h := by
    simp only [isOpening, Bool.or_eq_true, decide_eq_true_eq] at h
    rcases h with (rfl | rfl) | rfl <;> decide

/-- Parentheses alone. -/
def Delimiters.parentheses : Delimiters where
  opens c := c = '('
  closes c := c = ')'
  isQuote_of_opens h := by rw [decide_eq_true_eq] at h; subst h; decide
  isQuote_of_closes h := by rw [decide_eq_true_eq] at h; subst h; decide
  closes_of_opens h := by rw [decide_eq_true_eq] at h; subst h; decide

@[simp] theorem Delimiters.brackets_opens (c : Char) : brackets.opens c = isOpening c := rfl

@[simp] theorem Delimiters.brackets_closes (c : Char) : brackets.closes c = isClosing c := rfl

@[simp] theorem Delimiters.parentheses_opens (c : Char) :
    parentheses.opens c = decide (c = '(') := rfl

@[simp] theorem Delimiters.parentheses_closes (c : Char) :
    parentheses.closes c = decide (c = ')') := rfl

/-- How many are open, and the quotes the reader is in. -/
structure Counter where
  depth : Nat
  quoting : Quoting
deriving DecidableEq, Repr

namespace Counter

/-- A counter before the first character. -/
def start : Counter := ⟨0, .outside⟩

/-- Counts one character; `none` if it closes what has not been opened. -/
def step (d : Delimiters) (s : Counter) (c : Char) : Option Counter :=
  match s.quoting with
  | .escaped mark => some ⟨s.depth, .inside mark⟩
  | .inside mark =>
    if c = '\\' then some ⟨s.depth, .escaped mark⟩
    else some ⟨s.depth, .of (if c = mark then none else some mark)⟩
  | .outside =>
    if d.closes c then
      match s.depth with
      | 0 => none
      | depth + 1 => some ⟨depth, .outside⟩
    else some ⟨if d.opens c then s.depth + 1 else s.depth, .of (if isQuote c then some c else none)⟩

/-- Counts a text. -/
def run (d : Delimiters) : Counter → List Char → Option Counter
  | s, [] => some s
  | s, c :: cs => (step d s c).bind fun s => run d s cs

/-- The same reader with `k` more open around it. -/
def under (k : Nat) (s : Counter) : Counter := ⟨s.depth + k, s.quoting⟩

variable {d : Delimiters}

@[simp] theorem run_nil (s : Counter) : run d s [] = some s := rfl

@[simp] theorem run_cons (s : Counter) (c : Char) (cs : List Char) :
    run d s (c :: cs) = (step d s c).bind fun s => run d s cs := rfl

theorem step_closes {c : Char} (hc : d.closes c = true) (n : Nat) :
    step d ⟨n + 1, .outside⟩ c = some ⟨n, .outside⟩ := by
  simp [step, hc]

theorem step_closes_zero {c : Char} (hc : d.closes c = true) :
    step d ⟨0, .outside⟩ c = none := by
  simp [step, hc]

theorem step_outside {c : Char} (hc : d.closes c = false) (n : Nat) :
    step d ⟨n, .outside⟩ c =
      some ⟨if d.opens c then n + 1 else n, .of (if isQuote c then some c else none)⟩ := by
  simp [step, hc]

theorem step_backslash (n : Nat) (q : Char) :
    step d ⟨n, .inside q⟩ '\\' = some ⟨n, .escaped q⟩ := rfl

theorem step_inside {c : Char} (hc : c ≠ '\\') (n : Nat) (q : Char) :
    step d ⟨n, .inside q⟩ c = some ⟨n, .of (if c = q then none else some q)⟩ := by
  simp [step, hc]

theorem step_escaped (n : Nat) (q c : Char) :
    step d ⟨n, .escaped q⟩ c = some ⟨n, .inside q⟩ := rfl

theorem run_append (s : Counter) (cs ds : List Char) :
    run d s (cs ++ ds) = (run d s cs).bind fun s => run d s ds := by
  induction cs generalizing s with
  | nil => rfl
  | cons c cs ih =>
    rw [List.cons_append, run_cons, run_cons]
    cases step d s c with
    | none => rfl
    | some t => exact ih t

theorem step_under (k : Nat) {s t : Counter} {c : Char} (h : step d s c = some t) :
    step d (s.under k) c = some (t.under k) := by
  obtain ⟨depth, quoting⟩ := s
  cases quoting with
  | escaped mark => cases h; rfl
  | inside mark =>
    simp only [step] at h
    simp only [under, step]
    split at h <;> · cases h; simp [*]
  | outside =>
    simp only [step] at h
    simp only [under, step]
    split at h
    · next hc =>
      cases depth with
      | zero => cases h
      | succ depth => cases h; simp [hc, Nat.add_right_comm]
    · next hc =>
      cases h
      rw [if_neg hc]
      split <;> simp [Nat.add_right_comm]

theorem run_under (k : Nat) {s t : Counter} {cs : List Char} (h : run d s cs = some t) :
    run d (s.under k) cs = some (t.under k) := by
  induction cs generalizing s with
  | nil => cases h; rfl
  | cons c cs ih =>
    obtain ⟨u, hu, ht⟩ := Option.bind_eq_some_iff.1 h
    rw [run_cons, step_under k hu]
    exact ih ht

/-- A reader that never closes what is around it does not need it. -/
theorem step_of_under {k : Nat} {s t : Counter} {c : Char} (h : step d (s.under k) c = some t)
    (hk : k ≤ t.depth) : ∃ u, step d s c = some u ∧ t = u.under k := by
  obtain ⟨depth, quoting⟩ := s
  cases quoting with
  | escaped q => cases h; exact ⟨_, rfl, rfl⟩
  | inside q =>
    by_cases hc : c = '\\'
    · subst hc; cases h; exact ⟨_, rfl, rfl⟩
    · rw [under, step_inside hc] at h
      cases h
      exact ⟨_, step_inside hc _ _, rfl⟩
  | outside =>
    cases hc : d.closes c with
    | false =>
      rw [under, step_outside hc] at h
      cases h
      refine ⟨_, step_outside hc _, ?_⟩
      split <;> simp [under, Nat.add_right_comm]
    | true =>
      cases depth with
      | succ depth =>
        rw [under, Nat.add_right_comm, step_closes hc] at h
        cases h
        exact ⟨_, step_closes hc _, rfl⟩
      | zero =>
        cases k with
        | zero => rw [under, step_closes_zero hc] at h; cases h
        | succ k =>
          rw [under, ← Nat.add_assoc, step_closes hc] at h
          cases h
          exact absurd hk (by simp)

theorem run_of_under {k : Nat} {s t : Counter} {cs : List Char}
    (h : run d (s.under k) cs = some t)
    (hk : ∀ front back u, cs = front ++ back → front ≠ [] → run d (s.under k) front = some u →
      k ≤ u.depth) : ∃ u, run d s cs = some u ∧ t = u.under k := by
  induction cs generalizing s with
  | nil => cases h; exact ⟨s, rfl, rfl⟩
  | cons c cs ih =>
    obtain ⟨t', ht', h⟩ := Option.bind_eq_some_iff.1 h
    obtain ⟨u, hu, rfl⟩ := step_of_under ht' (hk [c] cs t' rfl (List.cons_ne_nil _ _) (by simp [ht']))
    obtain ⟨v, hv, rfl⟩ := ih h fun front back w hcs _ hw =>
      hk (c :: front) back w (by rw [hcs]; rfl) (List.cons_ne_nil _ _) (by rw [run_cons, ht']; exact hw)
    exact ⟨v, by rw [run_cons, hu]; exact hv, rfl⟩

end Counter

/-- The mark of any quotes is a quote character. -/
def Quoting.WellFormed : Quoting → Prop
  | .outside => True
  | .inside mark | .escaped mark => isQuote mark = true

namespace Counter

variable {d : Delimiters} {s t : Counter}

theorem wellFormed_of_step {c : Char} (hs : s.quoting.WellFormed) (h : step d s c = some t) :
    t.quoting.WellFormed := by
  obtain ⟨depth, quoting⟩ := s
  cases quoting with
  | escaped q => cases h; exact hs
  | inside q =>
    by_cases hc : c = '\\'
    · subst hc
      cases h
      exact hs
    · rw [step_inside hc] at h
      cases h
      split
      · trivial
      · exact hs
  | outside =>
    cases hc : d.closes c with
    | true =>
      cases depth with
      | zero => rw [step_closes_zero hc] at h; cases h
      | succ depth =>
        rw [step_closes hc] at h
        cases h
        trivial
    | false =>
      rw [step_outside hc] at h
      cases h
      show (Quoting.of (if isQuote c then some c else none)).WellFormed
      split
      · next hq => exact hq
      · trivial

/-- Quotes end at a quote character only. -/
theorem outside_of_step {c : Char} (hs : s.quoting.WellFormed) (hc : isQuote c = false)
    (h : step d s c = some t) (ht : t.quoting = .outside) : s.quoting = .outside := by
  obtain ⟨depth, quoting⟩ := s
  cases quoting with
  | outside => rfl
  | escaped q => cases h; cases ht
  | inside q =>
    have hq : isQuote q = true := hs
    have hne : c ≠ q := by
      rintro rfl
      rw [hc] at hq
      cases hq
    by_cases hb : c = '\\'
    · subst hb
      cases h
      cases ht
    · rw [step_inside hb, if_neg hne] at h
      cases h
      cases ht

theorem wellFormed_of_run {cs : List Char} (hs : s.quoting.WellFormed) (h : run d s cs = some t) :
    t.quoting.WellFormed := by
  induction cs generalizing s with
  | nil => cases h; exact hs
  | cons c cs ih =>
    obtain ⟨u, hu, h⟩ := Option.bind_eq_some_iff.1 h
    exact ih (wellFormed_of_step hs hu) h

theorem outside_of_run {cs : List Char} (hs : s.quoting.WellFormed)
    (hcs : cs.any isQuote = false) (h : run d s cs = some t) (ht : t.quoting = .outside) :
    s.quoting = .outside := by
  induction cs generalizing s with
  | nil => cases h; exact ht
  | cons c cs ih =>
    rw [List.any_cons, Bool.or_eq_false_iff] at hcs
    obtain ⟨u, hu, h⟩ := Option.bind_eq_some_iff.1 h
    have hout : u.quoting = .outside := ih (wellFormed_of_step hs hu) hcs.2 h
    exact outside_of_step hs hcs.1 hu hout

end Counter

open Counter

/-- A text that closes exactly what it opens, quotes included. -/
def Closed (d : Delimiters) (cs : List Char) : Prop :=
  run d start cs = some start

section Closed

variable {d : Delimiters} {cs ds : List Char}

theorem Closed.run_eq (h : Closed d cs) (n : Nat) :
    run d ⟨n, .outside⟩ cs = some ⟨n, .outside⟩ := by
  simpa [under, start] using run_under n h

theorem closed_nil : Closed d [] := rfl

theorem Closed.append (hc : Closed d cs) (hd : Closed d ds) : Closed d (cs ++ ds) := by
  rw [Closed, run_append, hc]
  exact hd

/-- A character that is neither counted nor a quote. -/
theorem Closed.cons {c : Char} (ho : d.opens c = false) (hc : d.closes c = false)
    (hq : isQuote c = false) (h : Closed d cs) : Closed d (c :: cs) := by
  have hstep : step d start c = some start := by simp [step, start, ho, hc, hq, Quoting.of]
  rw [Closed, run_cons, hstep]
  exact h

theorem Closed.group {o c : Char} (ho : d.opens o = true) (hc : d.closes c = true)
    (h : Closed d cs) : Closed d (o :: (cs ++ [c])) := by
  have hstep : step d start o = some ⟨1, .outside⟩ := by
    simp [step, start, d.closes_of_opens ho, d.isQuote_of_opens ho, ho, Quoting.of]
  rw [Closed, run_cons, hstep, Option.bind_some, run_append, h.run_eq 1, Option.bind_some]
  simp [step, hc, start]

end Closed

/-! ## The readers stop where the count does -/

theorem takeBracket_append_of_run : ∀ {cs rest : List Char} {q : Option Char} {n m : Nat},
    run .brackets ⟨n, .of q⟩ cs = some ⟨m, .outside⟩ →
    takeBracket n q (cs ++ rest) =
      (takeBracket m none rest).map fun (taken, after) => (cs ++ taken, after)
  | [], rest, none, n, m, h => by cases h; simp
  | [], rest, some q, n, m, h => by cases h
  | c :: cs, rest, none, n, m, h => by
    rw [Quoting.of, run_cons] at h
    rw [List.cons_append, takeBracket.eq_def]
    cases hc : isClosing c with
    | true =>
      cases n with
      | zero => rw [step_closes_zero hc] at h; cases h
      | succ n =>
        rw [step_closes hc, Option.bind_some] at h
        simp [hc, takeBracket_append_of_run (q := none) h, Function.comp_def]
    | false =>
      rw [step_outside hc, Option.bind_some, Delimiters.brackets_opens] at h
      simp [hc, takeBracket_append_of_run h, Function.comp_def]
  | c :: cs, rest, some q, n, m, h => by
    rw [Quoting.of, run_cons] at h
    rw [List.cons_append, takeBracket.eq_def]
    by_cases hc : c = '\\'
    · subst hc
      rw [step_backslash, Option.bind_some] at h
      cases cs with
      | nil => cases h
      | cons e cs =>
        rw [run_cons, step_escaped, Option.bind_some] at h
        simp [takeBracket_append_of_run (q := some q) h, Function.comp_def]
    · rw [step_inside hc, Option.bind_some] at h
      simp [hc, takeBracket_append_of_run h, Function.comp_def]

theorem takeParenthesis_append_of_run :
    ∀ {cs rest : List Char} {q : Option Char} {n m : Nat},
    run .parentheses ⟨n, .of q⟩ cs = some ⟨m, .outside⟩ →
    takeParenthesis n q (cs ++ rest) =
      (takeParenthesis m none rest).map fun (taken, after) => (cs ++ taken, after)
  | [], rest, none, n, m, h => by cases h; simp
  | [], rest, some q, n, m, h => by cases h
  | c :: cs, rest, none, n, m, h => by
    rw [Quoting.of, run_cons] at h
    rw [List.cons_append, takeParenthesis.eq_def]
    by_cases hc : c = ')'
    · subst hc
      cases n with
      | zero => rw [step_closes_zero rfl] at h; cases h
      | succ n =>
        rw [step_closes rfl, Option.bind_some] at h
        simp [takeParenthesis_append_of_run (q := none) h, Function.comp_def]
    · rw [step_outside (by simp [hc]), Option.bind_some, Delimiters.parentheses_opens] at h
      simp only [decide_eq_true_eq] at h
      simp [hc, takeParenthesis_append_of_run h, Function.comp_def]
  | c :: cs, rest, some q, n, m, h => by
    rw [Quoting.of, run_cons] at h
    rw [List.cons_append, takeParenthesis.eq_def]
    by_cases hc : c = '\\'
    · subst hc
      rw [step_backslash, Option.bind_some] at h
      cases cs with
      | nil => cases h
      | cons e cs =>
        rw [run_cons, step_escaped, Option.bind_some] at h
        simp [takeParenthesis_append_of_run (q := some q) h, Function.comp_def]
    · rw [step_inside hc, Option.bind_some] at h
      simp [hc, takeParenthesis_append_of_run h, Function.comp_def]

theorem parenthesesBalance_append_of_run :
    ∀ {cs rest : List Char} {q : Option Char} {n m : Nat},
    run .parentheses ⟨n, .of q⟩ cs = some ⟨m, .outside⟩ →
    parenthesesBalance n q (cs ++ rest) = parenthesesBalance m none rest
  | [], rest, none, n, m, h => by cases h; rfl
  | [], rest, some q, n, m, h => by cases h
  | c :: cs, rest, none, n, m, h => by
    rw [Quoting.of, run_cons] at h
    rw [List.cons_append, parenthesesBalance.eq_def]
    by_cases hc : c = ')'
    · subst hc
      cases n with
      | zero => rw [step_closes_zero rfl] at h; cases h
      | succ n =>
        rw [step_closes rfl, Option.bind_some] at h
        simp [parenthesesBalance_append_of_run (q := none) h]
    · rw [step_outside (by simp [hc]), Option.bind_some, Delimiters.parentheses_opens] at h
      simp only [decide_eq_true_eq] at h
      simp [hc, parenthesesBalance_append_of_run h]
  | c :: cs, rest, some q, n, m, h => by
    rw [Quoting.of, run_cons] at h
    rw [List.cons_append, parenthesesBalance.eq_def]
    by_cases hc : c = '\\'
    · subst hc
      rw [step_backslash, Option.bind_some] at h
      cases cs with
      | nil => cases h
      | cons e cs =>
        rw [run_cons, step_escaped, Option.bind_some] at h
        simp [parenthesesBalance_append_of_run (q := some q) h]
    · rw [step_inside hc, Option.bind_some] at h
      simp [hc, parenthesesBalance_append_of_run h]

/-- What a bracket holds closes what it opens, and the bracket ends right behind it. -/
theorem run_of_takeBracket {n : Nat} {mark : Option Char} {cs taken rest : List Char}
    (h : takeBracket n mark cs = some (taken, rest)) :
    ∃ inner, taken = inner ++ [']'] ∧ run .brackets ⟨n, .of mark⟩ inner = some start := by
  fun_induction takeBracket n mark cs generalizing taken rest with
  | case1 => cases h
  | case2 => cases h
  | case3 n q e cs ih =>
    obtain ⟨⟨taken', after⟩, h', he⟩ := Option.map_eq_some_iff.1 h
    obtain ⟨inner, rfl, hrun⟩ := ih h'
    cases he
    exact ⟨'\\' :: e :: inner, rfl, hrun⟩
  | case4 n c cs q hc ih =>
    obtain ⟨⟨taken', after⟩, h', he⟩ := Option.map_eq_some_iff.1 h
    obtain ⟨inner, rfl, hrun⟩ := ih h'
    cases he
    refine ⟨c :: inner, rfl, ?_⟩
    rw [Quoting.of, run_cons, step_inside hc]
    exact hrun
  | case5 cs hc =>
    cases h
    exact ⟨[], rfl, rfl⟩
  | case6 => cases h
  | case7 c cs hc n ih =>
    obtain ⟨⟨taken', after⟩, h', he⟩ := Option.map_eq_some_iff.1 h
    obtain ⟨inner, rfl, hrun⟩ := ih h'
    cases he
    refine ⟨c :: inner, rfl, ?_⟩
    rw [Quoting.of, run_cons, step_closes hc]
    exact hrun
  | case8 n c cs hc depth =>
    rename_i ih
    obtain ⟨⟨taken', after⟩, h', he⟩ := Option.map_eq_some_iff.1 h
    obtain ⟨inner, rfl, hrun⟩ := ih h'
    cases he
    refine ⟨c :: inner, rfl, ?_⟩
    rw [Quoting.of, run_cons, step_outside (by simpa using hc)]
    exact hrun

/-- What a parenthesis holds closes what it opens. -/
theorem run_of_takeParenthesis {n : Nat} {mark : Option Char} {cs taken rest : List Char}
    (h : takeParenthesis n mark cs = some (taken, rest)) :
    run .parentheses ⟨n, .of mark⟩ taken = some start := by
  fun_induction takeParenthesis n mark cs generalizing taken rest with
  | case1 => cases h
  | case2 => cases h
  | case3 n q e cs ih =>
    obtain ⟨⟨taken', after⟩, h', he⟩ := Option.map_eq_some_iff.1 h
    have hrun := ih h'
    cases he
    exact hrun
  | case4 n c cs q hc ih =>
    obtain ⟨⟨taken', after⟩, h', he⟩ := Option.map_eq_some_iff.1 h
    have hrun := ih h'
    cases he
    rw [Quoting.of, run_cons, step_inside hc]
    exact hrun
  | case5 cs =>
    cases h
    rfl
  | case6 cs n ih =>
    obtain ⟨⟨taken', after⟩, h', he⟩ := Option.map_eq_some_iff.1 h
    have hrun := ih h'
    cases he
    rw [Quoting.of, run_cons, step_closes rfl]
    exact hrun
  | case7 n c cs hc depth =>
    rename_i ih
    obtain ⟨⟨taken', after⟩, h', he⟩ := Option.map_eq_some_iff.1 h
    have hrun := ih h'
    cases he
    rw [Quoting.of, run_cons, step_outside (by simp [hc]), Option.bind_some]
    simpa using hrun

section Closed

variable {cs : List Char} (rest : List Char)

theorem takeBracket_of_closed (h : Closed .brackets cs) :
    takeBracket 0 none (cs ++ ']' :: rest) = some (cs ++ [']'], rest) := by
  rw [takeBracket_append_of_run (q := none) (h.run_eq 0)]
  simp [takeBracket, isClosing]

theorem takeParenthesis_of_closed (h : Closed .parentheses cs) :
    takeParenthesis 0 none (cs ++ ')' :: rest) = some (cs, rest) := by
  rw [takeParenthesis_append_of_run (q := none) (h.run_eq 0)]
  simp [takeParenthesis]

theorem parenthesesBalance_of_closed (h : Closed .parentheses cs) :
    parenthesesBalance 0 none cs = true := by
  rw [← List.append_nil cs, parenthesesBalance_append_of_run (q := none) (h.run_eq 0)]
  rfl

/-- A closing parenthesis right behind a closed text closes one that stands before it. -/
theorem parenthesesBalance_closing (h : Closed .parentheses cs) :
    parenthesesBalance 0 none (cs ++ ')' :: rest) = false := by
  rw [parenthesesBalance_append_of_run (q := none) (h.run_eq 0)]
  rfl

end Closed

/-! ## Balanced texts -/

/-- A text that no reader notices that counts brackets or parentheses. -/
structure Balanced (cs : List Char) : Prop where
  brackets : Closed .brackets cs
  parentheses : Closed .parentheses cs

/-- A character that is neither counted nor a quote. -/
def isPlain (c : Char) : Bool :=
  !(isOpening c || isClosing c || isQuote c)

/-- A text that stays inside the quotes it stands in: `mark` occurs in it only behind a
backslash. -/
inductive Hidden (mark : Char) : List Char → Prop
  | nil : Hidden mark []
  | escape (c : Char) {cs : List Char} : Hidden mark cs → Hidden mark ('\\' :: c :: cs)
  | cons {c : Char} {cs : List Char} : c ≠ '\\' → c ≠ mark → Hidden mark cs → Hidden mark (c :: cs)

theorem Hidden.append {mark : Char} {cs ds : List Char} (hc : Hidden mark cs)
    (hd : Hidden mark ds) : Hidden mark (cs ++ ds) := by
  induction hc with
  | nil => exact hd
  | escape c _ ih => exact .escape c ih
  | cons hb hm _ ih => exact .cons hb hm ih

theorem Hidden.of_all {mark : Char} {cs : List Char}
    (h : (cs.all fun c => c != '\\' && c != mark) = true) : Hidden mark cs := by
  induction cs with
  | nil => exact .nil
  | cons c cs ih =>
    simp only [List.all_cons, Bool.and_eq_true, bne_iff_ne] at h
    exact .cons h.1.1 h.1.2 (ih h.2)

theorem Hidden.flatMap {mark : Char} {f : Char → List Char} (h : ∀ c, Hidden mark (f c))
    (cs : List Char) : Hidden mark (cs.flatMap f) := by
  induction cs with
  | nil => exact .nil
  | cons c cs ih =>
    rw [List.flatMap_cons]
    exact (h c).append ih

theorem hidden_escapeQuote (c : Char) : Hidden '\'' (escapeQuote c) := by
  by_cases hc : c = '\'' ∨ c = '\\'
  · rw [escapeQuote, if_pos hc]
    exact .escape c .nil
  · rw [escapeQuote, if_neg hc]
    exact .cons (fun e => hc (.inr e)) (fun e => hc (.inl e)) .nil

theorem Hidden.run_append {d : Delimiters} {mark : Char} {cs : List Char} (h : Hidden mark cs)
    (n : Nat) (rest : List Char) :
    run d ⟨n, .inside mark⟩ (cs ++ rest) = run d ⟨n, .inside mark⟩ rest := by
  induction h with
  | nil => rfl
  | escape c _ ih =>
    rw [List.cons_append, List.cons_append, run_cons, step_backslash, Option.bind_some, run_cons,
      step_escaped]
    exact ih
  | cons hb hm _ ih =>
    rw [List.cons_append, run_cons, step_inside hb, if_neg hm]
    exact ih

/-- A text in quotes is closed, whatever the quotes hold. -/
theorem Hidden.closed {d : Delimiters} {mark : Char} {cs : List Char} (h : Hidden mark cs)
    (hmark : isQuote mark = true) : Closed d (mark :: (cs ++ [mark])) := by
  have hopens : d.opens mark = false := by
    cases hd : d.opens mark with
    | false => rfl
    | true => rw [d.isQuote_of_opens hd] at hmark; cases hmark
  have hcloses : d.closes mark = false := by
    cases hd : d.closes mark with
    | false => rfl
    | true => rw [d.isQuote_of_closes hd] at hmark; cases hmark
  have hb : mark ≠ '\\' := by
    rintro rfl
    exact absurd hmark (by decide)
  have hstep : step d start mark = some ⟨0, .inside mark⟩ := by
    simp [step, start, hopens, hcloses, hmark, Quoting.of]
  rw [Closed, run_cons, hstep, Option.bind_some, h.run_append, run_cons, step_inside hb, if_pos rfl]
  rfl

namespace Balanced

variable {cs ds : List Char}

theorem nil : Balanced [] := ⟨closed_nil, closed_nil⟩

theorem append (hc : Balanced cs) (hd : Balanced ds) : Balanced (cs ++ ds) :=
  ⟨hc.brackets.append hd.brackets, hc.parentheses.append hd.parentheses⟩

theorem cons {c : Char} (hc : isPlain c = true) (h : Balanced cs) : Balanced (c :: cs) := by
  simp only [isPlain, Bool.not_eq_true', Bool.or_eq_false_iff] at hc
  obtain ⟨⟨ho, hl⟩, hq⟩ := hc
  refine ⟨h.brackets.cons ho hl hq, h.parentheses.cons ?_ ?_ hq⟩
  · simp only [isOpening, Bool.or_eq_false_iff] at ho
    exact ho.1.2
  · simp only [isClosing, Bool.or_eq_false_iff] at hl
    exact hl.1.2

theorem of_forall (h : ∀ c ∈ cs, isPlain c = true) : Balanced cs := by
  induction cs with
  | nil => exact nil
  | cons c cs ih =>
    exact cons (h c List.mem_cons_self) (ih fun x hx => h x (List.mem_cons_of_mem _ hx))

theorem of_all (h : cs.all isPlain = true) : Balanced cs :=
  of_forall (List.all_eq_true.1 h)

theorem of_hidden {mark : Char} (h : Hidden mark cs) (hmark : isQuote mark = true) :
    Balanced (mark :: (cs ++ [mark])) :=
  ⟨h.closed hmark, h.closed hmark⟩

theorem quote (cs : List Char) : Balanced (quote cs) :=
  of_hidden (.flatMap hidden_escapeQuote cs) rfl

/-- A closed text in brackets or braces, which do not count as parentheses. -/
theorem group {o c : Char} (ho : isOpening o = true) (hc : isClosing c = true) (ho' : o ≠ '(')
    (hc' : c ≠ ')') (hcs : Closed .brackets cs) (hcs' : Closed .parentheses cs) :
    Balanced (o :: (cs ++ [c])) := by
  refine ⟨hcs.group ho hc, ?_⟩
  refine .cons (by simpa using ho') ?_ (Delimiters.brackets.isQuote_of_opens ho) ?_
  · rw [Delimiters.parentheses_closes, decide_eq_false_iff_not]
    rintro rfl
    exact absurd ho (by decide)
  · refine hcs'.append (.cons ?_ (by simpa using hc') ?_ closed_nil)
    · rw [Delimiters.parentheses_opens, decide_eq_false_iff_not]
      rintro rfl
      exact absurd hc (by decide)
    · exact Delimiters.brackets.isQuote_of_closes hc

theorem bracketed (h : Balanced cs) : Balanced (bracketed cs) :=
  group (by decide) (by decide) (by decide) (by decide) h.brackets h.parentheses

theorem braced (h : Balanced cs) : Balanced ('\x7b' :: (cs ++ ['\x7d'])) :=
  group (by decide) (by decide) (by decide) (by decide) h.brackets h.parentheses

theorem parenthesised (h : Balanced cs) : Balanced (parenthesised cs) :=
  ⟨h.brackets.group (by decide) (by decide), h.parentheses.group (by decide) (by decide)⟩

end Balanced

end PathQuery.Text
