import PathQuery.Proofs.PathText

/-!
# Joining paths

A path that ends at a segment boundary can be continued by any text that continues `$`: cutting the
joined text gives the words of both, and so the joined path compiles to the segments of both. What
makes this work is that a continuation starts with a dot or a bracket. Either ends a name and lets an
asterisk be a wildcard, and neither depends on what stands before it.
-/

namespace PathQuery

open Text Outcome

namespace Words

theorem continues_nil : Continues [] := by
  intro c hc
  cases hc

theorem Continues.append {cs ds : List Char} (hcs : Continues cs) (hds : Continues ds) :
    Continues (cs ++ ds) := by
  cases cs with
  | nil => exact hds
  | cons c cs => exact hcs

theorem endsWildcard_append {cs more : List Char} (hcs : endsWildcard cs = true)
    (hmore : Continues more) : endsWildcard (cs ++ more) = true := by
  cases cs with
  | cons c cs => exact hcs
  | nil =>
    cases more with
    | nil => rfl
    | cons c more => rcases hmore c rfl with rfl | rfl <;> rfl

theorem ofQuery_eq_ok_iff {cs : List Char} {cut : Words} :
    ofQuery cs = .ok cut ↔
      ∃ rest, cs = '$' :: rest ∧ Continues rest ∧ ofAnchor '$' rest = .ok cut := by
  constructor
  · intro h
    unfold ofQuery at h
    split at h
    · cases h
    · split at h
      · split at h
        · next c rest hc =>
          refine ⟨c :: rest, rfl, fun d hd => ?_, h⟩
          cases hd
          exact hc
        · cases h
      · exact ⟨[], rfl, continues_nil, h⟩
    · cases h
    · cases h
  · rintro ⟨rest, rfl, hrest, h⟩
    cases rest with
    | nil => exact h
    | cons c rest => exact (if_pos (hrest c rfl)).trans h

/-- What stands before a continuation does not matter to it. -/
theorem scan_eq_of_continues {cs : List Char} (h : Continues cs) (position : Nat)
    (afterDot afterDot' : Bool) : scan position afterDot cs = scan position afterDot' cs := by
  rw [scan.eq_def, scan.eq_def position afterDot']
  cases cs with
  | nil => rfl
  | cons c rest => rcases h c rfl with rfl | rfl <;> simp

/-- Behind what is cut to the end, a continuation is cut as if it stood alone. The induction follows
the cutting of the first text; the three readers that look ahead meet the continuation at its end. -/
theorem scan_append {position : Nat} {afterDot : Bool} {cs more rest : List Char}
    {words later : List (List Char)} (h : scan position afterDot cs = .ok (words, []))
    (hmore : Continues more)
    (hlater : ∀ position afterDot, scan position afterDot more = .ok (later, rest))
    (position' : Nat) :
    scan position' afterDot (cs ++ more) = .ok (words ++ later, rest) := by
  fun_induction scan position afterDot cs generalizing words position' with
  | case1 =>
    cases h
    exact hlater position' _
  | case2 position afterDot cs ih =>
    obtain ⟨⟨ws, r⟩, hscan, he⟩ := bind_eq_ok.1 h
    cases he
    exact scan_descent (ih hscan) position' afterDot
  | case3 position afterDot cs hdot hleads ih =>
    cases cs with
    | nil => cases hleads
    | cons c cs =>
      have hleads' : leads (c :: (cs ++ more)) = true := hleads
      exact scan_dot (fun hc => hdot cs (hc ▸ rfl)) hleads' (ih h) position' afterDot
  | case4 => cases h
  | case5 => cases h
  | case6 position afterDot tail taken cs htake _ ih =>
    obtain ⟨⟨ws, r⟩, hscan, he⟩ := bind_eq_ok.1 h
    cases he
    obtain ⟨inner, rfl, hinner⟩ := run_of_takeBracket htake
    have htext : '[' :: tail ++ more = bracketed inner ++ (cs ++ more) := by
      rw [← takeBracket_append htake, bracketed]
      simp
    rw [htext]
    exact scan_bracketed hinner (ih hscan) position' afterDot
  | case7 => cases h
  | case8 position afterDot c cs _ _ _ hstar ih =>
    obtain ⟨⟨ws, r⟩, hscan, he⟩ := bind_eq_ok.1 h
    cases he
    obtain ⟨rfl, rfl, hcs⟩ := hstar
    exact scan_wildcard (endsWildcard_append hcs hmore) (ih hscan) position'
  | case9 => cases h
  | case10 position afterDot c cs hdot hopen hclose _ hend name =>
    rename_i ih
    obtain ⟨⟨ws, r⟩, hscan, he⟩ := bind_eq_ok.1 h
    cases he
    have hrest : ∀ x ∈ (cs.dropWhile isNameChar ++ more).head?, isNameChar x = false := by
      intro x hx
      cases hdrop : cs.dropWhile isNameChar with
      | nil =>
        rw [hdrop] at hx
        exact hmore.isNameChar_eq x hx
      | cons d ds =>
        rw [hdrop] at hx
        cases hx
        have hhead := List.head?_dropWhile_not isNameChar cs
        rw [hdrop] at hhead
        exact hhead
    have htext : c :: cs ++ more =
        (c :: cs.takeWhile isNameChar) ++ (cs.dropWhile isNameChar ++ more) := by
      simp only [List.cons_append, ← List.append_assoc, List.takeWhile_append_dropWhile]
    rw [htext]
    exact scan_name (List.cons_ne_nil _ _) (isNameChar_of_mem_name hdot hopen hclose hend) hrest
      (ih hscan) position' afterDot

/-- A continuation that is cut to the end is cut so wherever it stands. -/
theorem scan_of_continues {position : Nat} {afterDot : Bool} {cs : List Char}
    {words : List (List Char)} (h : scan position afterDot cs = .ok (words, []))
    (hcs : Continues cs) (position' : Nat) (afterDot' : Bool) :
    scan position' afterDot' cs = .ok (words, []) := by
  have hnil (position : Nat) (afterDot : Bool) : scan position afterDot [] = .ok ([], []) := by
    rw [scan.eq_def]
  have hmoved := scan_append h continues_nil hnil position'
  rw [List.append_nil, List.append_nil] at hmoved
  rw [scan_eq_of_continues hcs position' afterDot' afterDot, hmoved]

end Words

namespace Query

/-- A path compiles when `$` is continued by words that can all be read. -/
theorem compile_eq_ok_iff {settings : Settings} {path : String} {query : Query} :
    compile settings path = .ok query ↔ ∃ rest words segments, path.toList = '$' :: rest ∧
      Words.Continues rest ∧ Words.scan 1 false rest = .ok (words, []) ∧
      words.mapM (Segment.ofWord settings.lenient (Expr.build settings)) = .ok segments ∧
      query = .root :: segments := by
  have hlist (words : List (List Char)) (query : Query) :
      ofList settings ((['$'] :: words).map String.ofList) = .ok query ↔ ∃ segments,
        words.mapM (Segment.ofWord settings.lenient (Expr.build settings)) = .ok segments ∧
        query = .root :: segments := by
    rw [ofList, ofWords, List.map_cons, mapM_cons_eq_ok, List.mapM_map]
    simp only [Function.comp_def, String.toList_ofList]
    constructor
    · rintro ⟨first, segments, hfirst, hwords, rfl⟩
      cases hfirst
      exact ⟨segments, hwords, rfl⟩
    · rintro ⟨segments, hwords, rfl⟩
      exact ⟨.root, segments, rfl, hwords, rfl⟩
  constructor
  · intro h
    obtain ⟨cut, hcut, h⟩ := bind_eq_ok.1 h
    obtain ⟨rest, hpath, hcontinues, hanchor⟩ := Words.ofQuery_eq_ok_iff.1 hcut
    obtain ⟨⟨words, left⟩, hscan, he⟩ := bind_eq_ok.1 hanchor
    cases he
    split at h
    · next hleft =>
      have hnil : left = [] := by simpa using hleft
      obtain ⟨segments, hwords, rfl⟩ := (hlist words query).1 h
      exact ⟨rest, words, segments, hpath, hcontinues, hnil ▸ hscan, hwords, rfl⟩
    · cases h
  · rintro ⟨rest, words, segments, hpath, hcontinues, hscan, hwords, rfl⟩
    have hanchor : Words.ofAnchor '$' rest =
        .ok ⟨(['$'] :: words).map String.ofList, ""⟩ := by
      rw [Words.ofAnchor, hscan]
      rfl
    have hcut := Words.ofQuery_eq_ok_iff.2 ⟨rest, hpath, hcontinues, hanchor⟩
    exact bind_eq_ok.2 ⟨_, hcut, (hlist words _).2 ⟨segments, hwords, rfl⟩⟩

/-- Compiling is compositional: a path that goes on with what can follow `$` compiles to the
segments of the path and then those of what follows. -/
theorem compile_append {settings : Settings} {path more : String} {first later : Query}
    (hpath : compile settings path = .ok first)
    (hmore : compile settings ("$" ++ more) = .ok (.root :: later)) :
    compile settings (path ++ more) = .ok (first ++ later) := by
  obtain ⟨rest, words, segments, hrest, hcontinues, hscan, hwords, rfl⟩ :=
    compile_eq_ok_iff.1 hpath
  obtain ⟨rest', words', segments', hrest', hcontinues', hscan', hwords', he⟩ :=
    compile_eq_ok_iff.1 hmore
  cases he
  have htext : more.toList = rest' := by
    rw [String.toList_append] at hrest'
    exact (List.cons.inj hrest').2
  refine compile_eq_ok_iff.2 ⟨rest ++ rest', words ++ words', segments ++ later, ?_,
    hcontinues.append hcontinues', Words.scan_append hscan hcontinues'
      (Words.scan_of_continues hscan' hcontinues') 1, ?_, rfl⟩
  · rw [String.toList_append, hrest, htext, List.cons_append]
  · rw [List.mapM_append, hwords, hwords']
    rfl

/-- A descent at the joint, where two dots meet a third that belongs to a name. -/
theorem compile_append_at_descent :
    (compile .standard "$.*.." = .ok [.root, .wildcard, .descent] ∧
      compile .standard ("$" ++ "...b[?(@.c > 1)].*") =
        .ok [.root, .descent, .key "b", .filter "@.c > 1", .wildcard]) ∧
    compile .standard ("$.*.." ++ "...b[?(@.c > 1)].*") =
      .ok ([.root, .wildcard, .descent] ++ [.descent, .key "b", .filter "@.c > 1", .wildcard]) := by
  have hpath : compile .standard "$.*.." = .ok [.root, .wildcard, .descent] := by
    with_unfolding_all rfl
  have hmore : compile .standard ("$" ++ "...b[?(@.c > 1)].*") =
      .ok [.root, .descent, .key "b", .filter "@.c > 1", .wildcard] := by
    with_unfolding_all rfl
  exact ⟨⟨hpath, hmore⟩, compile_append hpath hmore⟩

end Query

end PathQuery
