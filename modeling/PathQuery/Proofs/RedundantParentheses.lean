import PathQuery.Proofs.PatternFilter
import PathQuery.Proofs.Tokens

/-!
# Parentheses around a whole expression

The builder takes parentheses off a text if the parentheses between them balance. They are counted
outside of quotes only, but in patterns and in names as well, where they are no parentheses of the
expression. So parentheses around a text that can be built make no difference just when the text
balances in this count: otherwise the outer ones are not taken off, and then no way to split the text
gives the tree that it gives without them.
-/

namespace PathQuery.Expr

open Unicode Text Outcome

variable {settings : Settings}

theorem unwrap_parenthesised_eq (cs : List Char) :
    unwrap (parenthesised cs) = if parenthesesBalance 0 none cs then some cs else none := by
  rw [parenthesised, unwrap, List.getLast?_concat, List.dropLast_concat]
  simp only [true_and]

/-- The tokens of a text in parentheses are no operation, because the first parenthesis would have to
be closed by the text. -/
theorem not_isOperation_group {tokens : List (Token settings)} (h : Nested tokens) :
    ¬IsOperation (.opening :: (tokens ++ [.closing])) := by
  intro hoperation
  generalize hgroup : Token.opening :: (tokens ++ [Token.closing]) = group at hoperation
  cases hoperation with
  | operand => cases hgroup
  | @operator front back op hfront hback =>
    cases front with
    | nil => cases hgroup
    | cons token front =>
      obtain ⟨rfl, htail⟩ := List.cons.inj hgroup
      -- the operator is not the last token, and so it is one of the text
      rcases List.eq_nil_or_concat back with rfl | ⟨back, last, rfl⟩
      · cases (List.append_inj' htail rfl).2
      · have htokens : tokens ++ [.closing] = (front ++ .operator op :: back) ++ [last] := by
          rw [htail]
          simp
        obtain ⟨rfl, -⟩ := List.append_inj' htokens rfl
        exact h.not_opening hfront

theorem build_parenthesised_iff {cs : List Char} {expr : Expr}
    (h : build settings cs = .ok (some expr)) :
    build settings (parenthesised cs) = .ok (some expr) ↔ parenthesesBalance 0 none cs = true := by
  have hends := hasEnds_parenthesised cs
  have hunwrap := unwrap_parenthesised_eq cs
  cases hbalance : parenthesesBalance 0 none cs with
  | true =>
    rw [hbalance, if_pos rfl] at hunwrap
    refine iff_of_true ?_ rfl
    rw [build_eq, step, hends.trim_eq]
    rw [parenthesised] at hunwrap ⊢
    simp only [hunwrap, h]
  | false =>
    rw [hbalance, if_neg Bool.false_ne_true] at hunwrap
    refine iff_of_false (fun hbuild => ?_) Bool.false_ne_true
    -- the text with its parentheses can be taken apart in two ways, which agree on the tree
    rw [build_eq_ofParts hends hunwrap] at hbuild
    obtain ⟨tokens, hoperation, htokens⟩ := exists_writes_of_fromParts hends.trim_eq hends.ne_nil
      (fun _ => exists_writes_of_build) (fromParts_of_ofParts hbuild)
    obtain ⟨inner, hinner⟩ := exists_writes_of_build h
    have hunique := htokens.spells.unique hinner.group.spells
      (htokens.contents_eq.trans hinner.group.contents_eq.symm)
      (htokens.contents_eq ▸ isChain_items expr)
    rw [hunique] at hoperation
    exact not_isOperation_group hinner.nested hoperation

/-- The parentheses of a text balance if those of its operands do: the other ones nest. -/
theorem Spells.run_parentheses {tokens : List (Token settings)} {cs : List Char}
    (h : Spells tokens cs)
    (hoperand : ∀ leaf : Leaf settings, .operand leaf ∈ tokens → Closed .parentheses leaf.text)
    {n m : Nat} (hlevel : tokens.foldlM Token.level? n = some m) :
    Counter.run .parentheses ⟨n, .outside⟩ cs = some ⟨m, .outside⟩ := by
  induction h generalizing n with
  | blank hblank =>
    cases hlevel
    exact (balanced_of_isBlank hblank).parentheses.run_eq _
  | @token front rest token tokens hfront _ ih =>
    rw [List.foldlM_cons] at hlevel
    obtain ⟨k, hk, hlevel⟩ := Option.bind_eq_some_iff.1 hlevel
    have htoken : Counter.run .parentheses ⟨n, .outside⟩ token.text = some ⟨k, .outside⟩ := by
      cases token with
      | opening => cases hk; rfl
      | closing =>
        cases n with
        | zero => cases hk
        | succ n => cases hk; rfl
      | operand leaf =>
        cases hk
        exact (hoperand leaf List.mem_cons_self).run_eq n
      | operator op =>
        cases hk
        exact op.balanced_symbol.parentheses.run_eq n
    rw [Counter.run_append, (balanced_of_isBlank hfront).parentheses.run_eq n, Option.bind_some,
      Counter.run_append, htoken, Option.bind_some]
    exact ih (fun leaf hleaf => hoperand leaf (List.mem_cons_of_mem _ hleaf)) hlevel

/-- Parentheses around an expression that can be built do not change it just when the parentheses of
its text balance. -/
theorem ofText_parenthesised_iff {text : String} {expr : Expr}
    (h : ofText settings text = .ok (some expr)) :
    ofText settings ("(" ++ text ++ ")") = .ok (some expr) ↔
      parenthesesBalance 0 none text.toList = true := by
  have htext : ("(" ++ text ++ ")").toList = parenthesised text.toList := by simp [parenthesised]
  rw [ofText, htext]
  exact build_parenthesised_iff h

/-- Parentheses are redundant around every expression whose operands close what they open. -/
theorem build_parenthesised_of_operands {tokens : List (Token settings)} {cs : List Char}
    {expr : Expr} (h : build settings cs = .ok (some expr)) (htokens : Writes tokens cs expr)
    (hoperand : ∀ leaf : Leaf settings, .operand leaf ∈ tokens → Closed .parentheses leaf.text) :
    build settings (parenthesised cs) = .ok (some expr) :=
  (build_parenthesised (htokens.spells.run_parentheses hoperand htokens.nested)).trans h

/-- Parentheses in a pattern do no harm if they balance. -/
theorem ofText_parenthesised_of_pattern :
    ofText .standard "@.k =~ /(a|b)/" = .ok (some (.fieldMatches "(a|b)")) ∧
      ofText .standard ("(" ++ "@.k =~ /(a|b)/" ++ ")") = .ok (some (.fieldMatches "(a|b)")) := by
  have hbuild : ofText .standard "@.k =~ /(a|b)/" = .ok (some (.fieldMatches "(a|b)")) :=
    @ofText_patternText "(a|b)" (.of_all rfl)
  exact ⟨hbuild, (ofText_parenthesised_iff hbuild).2 (by decide)⟩

/-- A parenthesis in a pattern that is not closed keeps the outer parentheses from being taken off. -/
theorem ofText_parenthesised_ne_of_openPattern :
    ofText .standard "@.k =~ /(/" = .ok (some (.fieldMatches "(")) ∧
      ofText .standard "(@.k =~ /(/)" ≠ .ok (some (.fieldMatches "(")) := by
  have hbuild : ofText .standard "@.k =~ /(/" = .ok (some (.fieldMatches "(")) :=
    @ofText_patternText "(" (.of_all rfl)
  exact ⟨hbuild, fun h => absurd ((build_parenthesised_iff hbuild).1 h) (by decide)⟩

end PathQuery.Expr
