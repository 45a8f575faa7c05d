/-!
# Text in quotes

A key or a string is written between single quotes, with a backslash before each single quote
and each backslash. A key may be read between double quotes as well; in it a backslash stands
for itself unless it precedes the closing kind of quote or another backslash. A string literal
also knows the escapes of line ends and tabs, and drops every other backslash.
-/

namespace PathQuery.Text

/-- Whether a character opens a string. -/
def isQuote (c : Char) : Bool :=
  c = '\'' || c = '"'

/-- A character as it stands between single quotes. -/
def escapeQuote (c : Char) : List Char :=
  if c = '\'' ∨ c = '\\' then ['\\', c] else [c]

/-- A character as it stands in a key between quotes of one kind. -/
def escapeFor (mark c : Char) : List Char :=
  if c = mark ∨ c = '\\' then ['\\', c] else [c]

/-- A text between single quotes. -/
def quote (cs : List Char) : List Char :=
  '\'' :: (cs.flatMap escapeQuote ++ ['\''])

/-- Reads a key after its opening quote, up to and with the closing one; the second part is
what follows. -/
def readKey (mark : Char) : List Char → Option (List Char × List Char)
  | [] => none
  | ['\\'] => none
  | '\\' :: c :: rest =>
    (readKey mark rest).map fun (key, after) =>
      (if c = mark ∨ c = '\\' then c :: key else '\\' :: c :: key, after)
  | c :: rest =>
    if c = mark then some ([], rest)
    else (readKey mark rest).map fun (key, after) => (c :: key, after)

/-- The character that an escape in a string literal stands for. -/
def literalEscape : Char → Char
  | 'n' => '\n'
  | 't' => '\t'
  | 'r' => '\r'
  | c => c

/-- Reads a string literal after its opening quote. The closing quote must be the end. -/
def readLiteral (mark : Char) : List Char → Option (List Char)
  | [] => none
  | ['\\'] => none
  | '\\' :: c :: rest => (readLiteral mark rest).map (literalEscape c :: ·)
  | c :: rest =>
    if c = mark then if rest.isEmpty then some [] else none
    else (readLiteral mark rest).map (c :: ·)

/-- A key is read back from between quotes of one kind. -/
theorem readKey_escaped {mark : Char} (hmark : mark ≠ '\\') (cs rest : List Char) :
    readKey mark (cs.flatMap (escapeFor mark) ++ mark :: rest) = some (cs, rest) := by
  induction cs with
  | nil =>
    rw [List.flatMap_nil, List.nil_append, readKey.eq_4 _ _ _ (by simp [hmark]) (by simp [hmark]),
      if_pos rfl]
  | cons c cs ih =>
    by_cases h : c = mark ∨ c = '\\'
    · rw [List.flatMap_cons, escapeFor, if_pos h]
      simp [readKey, ih, h]
    · have hc : c ≠ '\\' := fun e => h (.inr e)
      have hq : c ≠ mark := fun e => h (.inl e)
      rw [List.flatMap_cons, escapeFor, if_neg h, List.append_assoc, List.singleton_append,
        readKey.eq_4 _ _ _ (by simp [hc]) (by simp [hc])]
      simp [hq, ih]

theorem readKey_quote (cs rest : List Char) :
    readKey '\'' (cs.flatMap escapeQuote ++ '\'' :: rest) = some (cs, rest) :=
  readKey_escaped (by decide) cs rest

/-- What is left after a key is shorter than what was read. -/
theorem length_readKey {mark : Char} {cs key rest : List Char}
    (h : readKey mark cs = some (key, rest)) : rest.length < cs.length := by
  fun_induction readKey mark cs generalizing key rest with
  | case1 => simp at h
  | case2 => simp at h
  | case3 c cs ih =>
    simp only [Option.map_eq_some_iff, Prod.mk.injEq, Prod.exists] at h
    obtain ⟨k, r, hk, -, rfl⟩ := h
    have := ih hk
    simp; omega
  | case4 => simp_all
  | case5 c cs _ _ _ ih =>
    simp only [Option.map_eq_some_iff, Prod.mk.injEq, Prod.exists] at h
    obtain ⟨k, r, hk, -, rfl⟩ := h
    have := ih hk
    simp; omega

end PathQuery.Text
