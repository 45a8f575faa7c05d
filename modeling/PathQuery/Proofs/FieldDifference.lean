import PathQuery.Proofs.OperatorChain

/-!
# Subtracting a number from a field

Without white space, `@.price-2` is a subtraction: a name ends at the minus sign. The search for
operators does not know where names are. It takes a sign behind a digit and an `e` for that of an
exponent, also where these end a name, and so the difference from a field like `@.a1e` is not found.
-/

namespace PathQuery

open Number Text Unicode Split Outcome

/-- The characters of identifiers. -/
def isIdentifierChar (c : Char) : Bool :=
  c.isAlphanum || c = '_'

/-- Whether a name is an ASCII letter or an underscore with letters, digits and underscores
behind it. -/
def isIdentifier : List Char → Bool
  | [] => false
  | c :: rest => (c.isAlpha || c = '_') && rest.all isIdentifierChar

/-- A name that ends like a number in front of its exponent. -/
def EndsInExponent (name : List Char) : Prop :=
  ∃ front d e, name = front ++ [d, e] ∧ d.isDigit = true ∧ (e = 'e' ∨ e = 'E')

/-- The text of a field of the current value. -/
def fieldText (name : List Char) : List Char :=
  '@' :: '.' :: name

/-- The segment that a name stands for. -/
def Segment.named (name : String) : Segment :=
  if name = "length" then .length else .key name

/-- The selector of a field of the current value. -/
def Expr.field (name : String) : Expr :=
  .selector .current [.current, .named name]

/-! ## The characters of identifiers -/

section Char

variable {c : Char}

theorem ne_of_isIdentifierChar {d : Char} (hc : isIdentifierChar c = true)
    (hd : isIdentifierChar d = false) : c ≠ d := by
  rintro rfl
  rw [hc] at hd
  cases hd

theorem toNat_of_isAlpha (hc : c.isAlpha = true) : 58 ≤ c.toNat ∧ c.toNat ≤ 122 := by
  delta Char.isAlpha Char.isUpper Char.isLower at hc
  simp only [Bool.or_eq_true, Bool.and_eq_true, decide_eq_true_eq, UInt32.le_iff_toNat_le,
    ge_iff_le] at hc
  have hcases : 65 ≤ c.toNat ∧ c.toNat ≤ 90 ∨ 97 ≤ c.toNat ∧ c.toNat ≤ 122 := hc
  omega

theorem isSpace_of_isIdentifierChar (hc : isIdentifierChar c = true) : isSpace c = false := by
  have hbounds : 48 ≤ c.toNat ∧ c.toNat ≤ 122 := by
    simp only [isIdentifierChar, Char.isAlphanum, Bool.or_eq_true, decide_eq_true_eq] at hc
    rcases hc with (hc | hc) | rfl
    · have hbounds := toNat_of_isAlpha hc
      omega
    · have hbounds : 48 ≤ c.toNat ∧ c.toNat ≤ 57 := Char.isDigit_iff_toNat.1 hc
      omega
    · decide
  simp only [isSpace, Bool.or_eq_false_iff, Bool.and_eq_false_iff, decide_eq_false_iff_not,
    beq_eq_false_iff_ne]
  omega

theorem isEnd_of_isIdentifierChar (hc : isIdentifierChar c = true) : isEnd c = true := by
  have hne {d : Char} (hd : isIdentifierChar d = false) : c ≠ d := ne_of_isIdentifierChar hc hd
  simp (disch := decide) [isEnd, isSpace_of_isIdentifierChar hc, hne]

theorem isQuiet_of_isIdentifierChar (hc : isIdentifierChar c = true) : isQuiet c = true := by
  have hne {d : Char} (hd : isIdentifierChar d = false) : c ≠ d := ne_of_isIdentifierChar hc hd
  simp (disch := decide) [isQuiet, isPlain, isOpening, isClosing, isQuote, hne]

theorem isNameChar_of_isIdentifierChar (hc : isIdentifierChar c = true) :
    Words.isNameChar c = true := by
  have hne {d : Char} (hd : isIdentifierChar d = false) : c ≠ d := ne_of_isIdentifierChar hc hd
  simp (disch := decide) [Words.isNameChar, Words.isOperatorChar, isSpace_of_isIdentifierChar hc, hne]

end Char

section Identifier

variable {name : List Char} (h : isIdentifier name = true)

include h

theorem exists_cons_of_isIdentifier : ∃ c rest, name = c :: rest ∧ c.isDigit = false ∧
    ∀ x ∈ name, isIdentifierChar x = true := by
  cases name with
  | nil => cases h
  | cons c rest =>
    simp only [isIdentifier, Bool.and_eq_true, Bool.or_eq_true, decide_eq_true_eq] at h
    obtain ⟨hc, hrest⟩ := h
    refine ⟨c, rest, rfl, ?_, fun x hx => ?_⟩
    · rcases hc with hc | rfl
      · have hbounds := toNat_of_isAlpha hc
        refine Bool.eq_false_iff.2 fun hdigit => ?_
        have hle : c.toNat ≤ 57 := (Char.isDigit_iff_toNat.1 hdigit).2
        omega
      · rfl
    · rcases List.mem_cons.1 hx with rfl | hx
      · rcases hc with hc | rfl
        · simp [isIdentifierChar, Char.isAlphanum, hc]
        · rfl
      · exact List.all_eq_true.1 hrest x hx

theorem isIdentifierChar_of_mem : ∀ c ∈ name, isIdentifierChar c = true := by
  obtain ⟨c, rest, -, -, hall⟩ := exists_cons_of_isIdentifier h
  exact hall

theorem hasEnds_identifier : HasEnds name := by
  obtain ⟨c, rest, rfl, -, hall⟩ := exists_cons_of_isIdentifier h
  have hlast := List.getLast?_eq_some_getLast (List.cons_ne_nil c rest)
  exact ⟨⟨c, rfl, isEnd_of_isIdentifierChar (hall c List.mem_cons_self)⟩,
    _, hlast, isEnd_of_isIdentifierChar (hall _ (List.mem_of_getLast? hlast))⟩

theorem hasEnds_fieldText : HasEnds (fieldText name) := by
  obtain ⟨d, hlast, hd⟩ := (hasEnds_identifier h).last
  exact .of_getLast? rfl ⟨d, by rw [List.getLast?_cons, hlast]; rfl, hd⟩

theorem readInt64_identifier : readInt64 name = none := by
  obtain ⟨c, rest, rfl, hdigit, hall⟩ := exists_cons_of_isIdentifier h
  have hc := hall c List.mem_cons_self
  have hminus : c ≠ '-' := ne_of_isIdentifierChar hc (by decide)
  have hplus : c ≠ '+' := ne_of_isIdentifierChar hc (by decide)
  exact readInt64_cons_eq_none hminus hplus hdigit rest

/-! ## Cutting and reading a field -/

theorem Words.ofSelector_fieldText {cs : List Char}
    (hcs : ∀ position, scan position false cs = .ok ([], cs))
    (hhead : ∀ c ∈ cs.head?, isNameChar c = false) :
    ofSelector (fieldText name ++ cs) = .ok ⟨["@", String.ofList name], String.ofList cs⟩ := by
  have hmem := isIdentifierChar_of_mem h
  have hname : ∀ c ∈ name, isNameChar c = true :=
    fun c hc => isNameChar_of_isIdentifierChar (hmem c hc)
  have hscan := scan_name (hasEnds_identifier h).ne_nil hname hhead hcs
  obtain ⟨c, rest, rfl, -, -⟩ := exists_cons_of_isIdentifier h
  have hc := hmem c List.mem_cons_self
  have hdot : c ≠ '.' := ne_of_isIdentifierChar hc (by decide)
  have hbracket : c ≠ ']' := ne_of_isIdentifierChar hc (by decide)
  have hleads : leads (c :: (rest ++ cs)) = true := by
    simp [leads, hbracket, isSpace_of_isIdentifierChar hc]
  have hall := scan_dot hdot hleads (fun position => hscan position true) 1 false
  show ofAnchor '@' ('.' :: c :: (rest ++ cs)) = _
  rw [ofAnchor, hall]
  rfl

end Identifier

theorem Words.scan_minus (position : Nat) (rest : List Char) :
    scan position false ('-' :: rest) = .ok ([], '-' :: rest) := by
  rw [scan.eq_def]
  simp [isOperatorChar]

section Read

variable {lenient : Bool} {build : ExprBuilder} {name : String}

theorem Segment.ofWord_identifier (h : isIdentifier name.toList = true) :
    ofWord lenient build name.toList = .ok (.named name) := by
  have hread := readInt64_identifier h
  unfold ofWord
  split
  -- the words that are no names do not start like one
  iterate 6 · next he => rw [he] at h; exact absurd h (by simp [isIdentifier])
  · rw [hread, named]
    by_cases hname : name = "length"
    · subst hname
      rfl
    · have hne : name.toList ≠ "length".toList := fun e => hname (String.toList_injective e)
      rw [if_neg hne, if_neg hname, String.ofList_toList]
      rfl

/-- The text of a field is taken up whole. -/
theorem Expr.ofSelector_fieldText (h : isIdentifier name.toList = true) :
    ofSelector lenient build .current (fieldText name.toList) = .ok (.field name) := by
  have hscan (position : Nat) : Words.scan position false [] = .ok ([], []) := by
    rw [Words.scan.eq_def]
  have hcut := Words.ofSelector_fieldText h hscan (fun c hc => by cases hc)
  rw [List.append_nil, String.ofList_toList] at hcut
  refine ofSelector_of_cut hcut ?_
  rw [Query.ofWords, List.mapM_cons, List.mapM_cons, List.mapM_nil, Segment.ofWord_identifier h]
  rfl

/-- With a minus sign behind it, it is not. -/
theorem Expr.ofSelector_fieldText_minus (h : isIdentifier name.toList = true) {rest : List Char}
    (hends : HasEnds ('-' :: rest)) :
    ofSelector lenient build .current (fieldText name.toList ++ '-' :: rest) =
      .error (.unsupportedOperator (String.ofList ('-' :: rest))) := by
  have hcut := Words.ofSelector_fieldText h (fun position => Words.scan_minus position rest)
    (fun c hc => by cases hc; rfl)
  have hrest : trim (String.ofList ('-' :: rest)).toList = '-' :: rest := by
    rw [String.toList_ofList, hends.trim_eq]
  rw [ofSelector, hcut]
  simp only [bind, Except.bind, hrest]
  rfl

end Read

/-! ## Where operators are found -/

namespace Split

variable {name : List Char}

theorem silent_fieldText (h : ∀ c ∈ name, isIdentifierChar c = true) (q : Operator) :
    Silent (.operator q) (fieldText name) := by
  have hname : ∀ c ∈ '.' :: name, isQuiet c = true := by
    intro c hc
    rcases List.mem_cons.1 hc with rfl | hc
    · rfl
    · exact isQuiet_of_isIdentifierChar (h c hc)
  exact (silent_anchor q .current).append (silent_of_forall hname)

theorem inExponent_fieldText_iff :
    inExponent (fieldText name).reverse = true ↔ EndsInExponent name := by
  constructor
  · intro hexponent
    rcases List.eq_nil_or_concat name with rfl | ⟨front, e, rfl⟩
    · cases hexponent
    rcases List.eq_nil_or_concat front with rfl | ⟨front, d, rfl⟩
    · simp [fieldText, inExponent] at hexponent
    · refine ⟨front, d, e, by simp, ?_⟩
      simpa [fieldText, inExponent, and_comm] using hexponent
  · rintro ⟨front, d, e, rfl, hd, he⟩
    rcases he with rfl | rfl <;> simp [fieldText, inExponent, hd]

instance : DecidablePred EndsInExponent := fun _ =>
  decidable_of_iff _ inExponent_fieldText_iff

/-- A minus sign behind a text in which nothing is found is the only operator that is found before
digits, unless the text ends like a number in front of its exponent. -/
theorem sides_minus {left digits : List Char} (hleft : ∀ q : Operator, Silent (.operator q) left)
    (hexponent : inExponent left.reverse = false) (hdigits : IsDigits digits) (q : Operator) :
    sides (Priority.operator q).symbol [] (mark [] 0 none (left ++ '-' :: digits)) =
      if q = .sub then [(left, digits)] else [] := by
  have hnil := (silent_digits (p := .operator q) hdigits).sides_eq_nil ('-' :: left.reverse)
  rw [hleft q, List.append_nil, mark_plain rfl (.inl (by decide))]
  by_cases hq : q = .sub
  · subst hq
    rw [Priority.symbol, Operator.symbol] at hnil ⊢
    simp [sides, afterSymbol?, standsAlone, hexponent, map_fst_mark, hnil]
  · have hhead : (Priority.operator q).symbol.head? ≠ some '-' := fun hhead =>
      hq (Priority.operator.inj (eq_sub_of_head?_symbol hhead))
    rw [sides_of_head?_ne hhead, hnil, if_neg hq]

/-- Behind a name that ends in an exponent the sign is not found. -/
theorem silent_fieldText_minus (h : ∀ c ∈ name, isIdentifierChar c = true)
    (hexponent : EndsInExponent name) {digits : List Char} (hdigits : IsDigits digits)
    (q : Operator) : Silent (.operator q) (fieldText name ++ '-' :: digits) := by
  obtain ⟨front, d, e, rfl, hd, he⟩ := hexponent
  have hfront := silent_fieldText (fun c hc => h c (List.mem_append_left _ hc)) q
  have hback : Silent (.operator q) ([d, e, '-'] ++ digits) :=
    (silent_exponent hd he).append (silent_digits hdigits)
  have htext : fieldText (front ++ [d, e]) ++ '-' :: digits =
      fieldText front ++ ([d, e, '-'] ++ digits) := by
    simp [fieldText]
  rw [htext]
  exact hfront.append hback

end Split

/-! ## Building the difference -/

/-- The text of a difference of a field and a number, without white space. -/
def differenceText (name : String) (n : Int64) : String :=
  "@." ++ name ++ "-" ++ toString n

theorem toList_differenceText (name : String) (n : Int64) :
    (differenceText name n).toList = fieldText name.toList ++ '-' :: intText n.toInt := by
  simp [differenceText, fieldText, toList_toString]

namespace Expr

/-- The expression `@.name - n`. -/
def difference (name : String) (n : Int64) : Expr :=
  .binary .sub (.field name) (.literal (.integer n))

section Build

variable {settings : Settings} (hsettings : settings.priorities = Priority.default) {name : String}
  (h : isIdentifier name.toList = true)

include hsettings h

theorem build_fieldText : build settings (fieldText name.toList) = .ok (some (.field name)) := by
  have hbuild : build settings (fieldText name.toList) =
      (ofSelector settings.lenient (build settings) .current (fieldText name.toList)).map some :=
    @build_anchor settings hsettings .current _ (hasEnds_fieldText h)
      (silent_fieldText (isIdentifierChar_of_mem h))
  rw [hbuild, ofSelector_fieldText h]
  rfl

variable {n : Int64} (hn : 0 ≤ n)

include hn

theorem build_difference (hexponent : ¬EndsInExponent name.toList) :
    build settings (differenceText name n).toList = .ok (some (.difference name n)) := by
  have hdigits : IsDigits (intText n.toInt) := isDigits_intText (Int64.le_iff_toInt_le.1 hn)
  have hends : HasEnds (fieldText name.toList ++ '-' :: intText n.toInt) :=
    (hasEnds_fieldText h).join (hasEnds_intText n.toInt) ['-']
  have hunwrap : unwrap (fieldText name.toList ++ '-' :: intText n.toInt) = none :=
    unwrap_of_head?_ne fun hhead => absurd (Option.some.inj hhead) (by decide)
  have hsilent := silent_fieldText (isIdentifierChar_of_mem h)
  have hnot : inExponent (fieldText name.toList).reverse = false := by
    rw [Bool.eq_false_iff, Ne, inExponent_fieldText_iff]
    exact hexponent
  have hsplit := @ofSplit_eq_binary settings.lenient (build settings) .sub
    (fieldText name.toList ++ '-' :: intText n.toInt) (fieldText name.toList) (intText n.toInt) _ _
    (by decide) (by decide) (hasEnds_fieldText h).isBlank_eq (hasEnds_intText n.toInt).isBlank_eq
    (build_fieldText hsettings h) (Chain.build_number n)
  rw [toList_differenceText, build_eq_ofParts hends hunwrap, ofParts, hsettings,
    candidates_default_of_sides (sides_minus hsilent hnot hdigits),
    firstResult_cons_of_some hsplit]
  rfl

theorem build_difference_of_exponent (hexponent : EndsInExponent name.toList) :
    build settings (differenceText name n).toList =
      .error (.unsupportedOperator ("-" ++ toString n)) := by
  have hdigits : IsDigits (intText n.toInt) := isDigits_intText (Int64.le_iff_toInt_le.1 hn)
  have hends : HasEnds ('-' :: intText n.toInt) :=
    .of_getLast? rfl (hasEnds_intText n.toInt).last
  have hbuild : build settings (fieldText name.toList ++ '-' :: intText n.toInt) =
      (ofSelector settings.lenient (build settings) .current
        (fieldText name.toList ++ '-' :: intText n.toInt)).map some :=
    @build_anchor settings hsettings .current _
      ((hasEnds_fieldText h).join (hasEnds_intText n.toInt) ['-'])
      (silent_fieldText_minus (isIdentifierChar_of_mem h) hexponent hdigits)
  have hrest : String.ofList ('-' :: intText n.toInt) = "-" ++ toString n := by
    apply String.toList_injective
    simp [toList_toString]
  rw [toList_differenceText, hbuild, ofSelector_fieldText_minus h hends, hrest]
  rfl

end Build

/-- The text of a difference of a field and a number is built as that difference, unless the name of
the field ends in a digit and an `e`. Then the sign is taken for that of an exponent, and what stands
behind the field is refused. -/
theorem ofText_differenceText {name : String} (hname : isIdentifier name.toList = true) {n : Int64}
    (hn : 0 ≤ n) :
    (¬EndsInExponent name.toList →
        ofText .standard (differenceText name n) = .ok (some (.difference name n))) ∧
      (EndsInExponent name.toList → ofText .standard (differenceText name n) =
        .error (.unsupportedOperator ("-" ++ toString n))) :=
  ⟨build_difference rfl hname hn, build_difference_of_exponent rfl hname hn⟩

/-- The length of the current value less two. -/
theorem ofText_differenceText_of_length :
    isIdentifier "length".toList = true ∧ (0 : Int64) ≤ 2 ∧ ofText .standard "@.length-2" =
      .ok (some (.binary .sub (.selector .current [.current, .length]) (.literal (.integer 2)))) := by
  have hname : isIdentifier "length".toList = true := by decide
  have hn : (0 : Int64) ≤ 2 := by decide
  have htext : differenceText "length" 2 = "@.length-2" := by decide
  have hbuild := (ofText_differenceText hname hn).1 (by decide)
  rw [htext] at hbuild
  exact ⟨hname, hn, hbuild⟩

/-- The name `a1e` ends in a digit and an `e`. -/
theorem ofText_differenceText_eq_error_of_exponent :
    isIdentifier "a1e".toList = true ∧ (0 : Int64) ≤ 2 ∧
      ofText .standard "@.a1e-2" = .error (.unsupportedOperator "-2") := by
  have hname : isIdentifier "a1e".toList = true := by decide
  have hn : (0 : Int64) ≤ 2 := by decide
  have htext : differenceText "a1e" 2 = "@.a1e-2" := by decide
  have hbuild := @build_difference_of_exponent .standard rfl "a1e" hname 2 hn (by decide)
  rw [htext] at hbuild
  exact ⟨hname, hn, hbuild⟩

end Expr

end PathQuery
