import MonetaryText.Proofs.Expression.Tokens

/-!
Tokens as pieces of the text that they are taken from. They stand in order, only blanks are left between
them, and a numeral is as long as its style has characters for it. What a text has no tokens for is told by
the character alone and what has come before it: main statement `tokenize_lossless`.
-/

namespace MonetaryText.Expression

variable {style : NumeralStyle} {text : Text} {position : Nat} {c : Char} {rest : Text}

/-! ### Pieces of a text -/

/-- What stands at an index, found from where a text is cut. -/
theorem getElem?_of_drop_append {front : Text} {index : Nat} (remains : text.drop position = front ++ rest)
    (behind : position ≤ index) (inside : index < position + front.length) :
    text[index]? = front[index - position]? := by
  have found : (text.drop position)[index - position]? = front[index - position]? := by
    rw [remains, List.getElem?_append_left (by omega)]
  rwa [List.getElem?_drop, Nat.add_sub_cancel' behind] at found

/-- The indices of the characters that a token consists of. -/
def Token.Covers (token : Token) (index : Nat) : Prop :=
  token.position ≤ index ∧ index < token.position + token.text.length

/-- One token begins before another one, and ends before it. -/
def Token.Precedes (token later : Token) : Prop :=
  token.position < later.position ∧ token.position + token.text.length ≤ later.position

/-- A token is a piece of a text: one character that has a kind, or a numeral. A numeral begins with a
digit and is the longest run of its characters there, without the blanks at the end. -/
structure Token.IsPiece (style : NumeralStyle) (text : Text) (token : Token) : Prop where
  nonempty : token.text ≠ []
  same : (text.drop token.position).take token.text.length = token.text
  single : token.kind ≠ .number → ∃ c, token.text = [c] ∧ singleKind? c = some token.kind
  maximal : token.kind = .number →
    token.text.head?.any Char.isDigit = true ∧
      token.text = Text.trimRight ((text.drop token.position).takeWhile style.isNumeralChar)

/-- Tokens in their order cover a text from a position on, up to blanks. -/
structure Tiles (style : NumeralStyle) (text : Text) (position : Nat) (tokens : List Token) : Prop where
  pieces : ∀ token ∈ tokens, position ≤ token.position ∧ token.IsPiece style text
  ordered : tokens.Pairwise Token.Precedes
  gaps : ∀ index c, position ≤ index → text[index]? = some c →
    (∀ token ∈ tokens, ¬token.Covers index) → Text.isBlank c = true

theorem Tiles.nil (ends : text.drop position = []) : Tiles style text position [] := by
  refine ⟨by simp, .nil, fun index c from_ found _ => ?_⟩
  have beyond : text.length ≤ index := Nat.le_trans (List.drop_eq_nil_iff.mp ends) from_
  rw [List.getElem?_eq_none beyond] at found
  cases found

/-- Blanks before tokens belong to none of them. -/
theorem Tiles.skip {blanks : Text} {tokens : List Token} (remains : text.drop position = blanks ++ rest)
    (blank : Text.isBlankText blanks = true)
    (tiles : Tiles style text (position + blanks.length) tokens) : Tiles style text position tokens where
  pieces token member :=
    ⟨Nat.le_trans (Nat.le_add_right _ _) (tiles.pieces token member).1, (tiles.pieces token member).2⟩
  ordered := tiles.ordered
  gaps index c from_ found outside := by
    by_cases before : index < position + blanks.length
    · rw [getElem?_of_drop_append remains from_ before] at found
      exact Text.isBlank_of_mem blank c (List.mem_of_getElem? found)
    · exact tiles.gaps index c (Nat.le_of_not_lt before) found outside

/-- One more token in front. -/
theorem Tiles.cons {token : Token} {tokens : List Token} (piece : token.IsPiece style text)
    (tiles : Tiles style text (token.position + token.text.length) tokens) :
    Tiles style text token.position (token :: tokens) where
  pieces := by
    have longer := List.length_pos_iff.mpr piece.nonempty
    refine List.forall_mem_cons.mpr ⟨⟨Nat.le_refl _, piece⟩, fun later member => ?_⟩
    obtain ⟨behind, is⟩ := tiles.pieces later member
    exact ⟨by omega, is⟩
  ordered := by
    have longer := List.length_pos_iff.mpr piece.nonempty
    refine .cons (fun later member => ?_) tiles.ordered
    have behind := (tiles.pieces later member).1
    exact ⟨by omega, behind⟩
  gaps index c from_ found outside := by
    obtain ⟨uncovered, others⟩ := List.forall_mem_cons.mp outside
    refine tiles.gaps index c (Nat.le_of_not_lt fun inside => ?_) found others
    exact uncovered ⟨from_, inside⟩

/-! ### The scan of a text -/

theorem getElem?_of_drop (remains : text.drop position = c :: rest) :
    text[position]? = some c ∧ text.drop (position + 1) = rest := by
  constructor
  · rw [← Nat.add_zero position, ← List.getElem?_drop, remains]
    rfl
  · rw [← List.drop_drop, remains]
    rfl

theorem drop_of_run (remains : text.drop position = rest) (p : Char → Bool) :
    text.drop (position + (rest.takeWhile p).length) = rest.dropWhile p := by
  rw [← List.drop_drop, remains]
  conv => lhs; arg 2; rw [← List.takeWhile_append_dropWhile (p := p) (l := rest)]
  exact List.drop_left

theorem isPiece_of_single {kind : TokenKind} (remains : text.drop position = c :: rest)
    (known : singleKind? c = some kind) : Token.IsPiece style text ⟨kind, [c], position⟩ where
  nonempty := List.cons_ne_nil c []
  same := by simp [remains]
  single _ := ⟨c, rfl, known⟩
  maximal number := by
    obtain ⟨_, _, ⟨rfl, _⟩ | ⟨rfl, _⟩ | ⟨rfl, _⟩⟩ := singleKind?_eq_some known <;> cases number

/-- The blanks at the end of a numeral are cut off from it and stand behind it. -/
theorem isPiece_of_digit (style : NumeralStyle) (remains : text.drop position = c :: rest) (digit : c.isDigit = true) :
    ∃ after, Text.isBlankText after = true ∧
      c :: rest = Text.trimRight (c :: rest.takeWhile style.isNumeralChar) ++
        (after ++ rest.dropWhile style.isNumeralChar) ∧
      Token.IsPiece style text
        ⟨.number, Text.trimRight (c :: rest.takeWhile style.isNumeralChar), position⟩ := by
  have known : style.isNumeralChar c = true := NumeralStyle.isNumeralChar_iff.mpr (.inl digit)
  obtain ⟨after, blank, split⟩ := Text.exists_trimRight (c :: rest.takeWhile style.isNumeralChar)
  have whole : c :: rest = Text.trimRight (c :: rest.takeWhile style.isNumeralChar) ++
      (after ++ rest.dropWhile style.isNumeralChar) := by
    rw [← List.append_assoc, ← split, List.cons_append, List.takeWhile_append_dropWhile]
  refine ⟨after, blank, whole, ?_⟩
  cases trimmed : Text.trimRight (c :: rest.takeWhile style.isNumeralChar) with
  | nil =>
    rw [trimmed, List.nil_append] at split
    have solid := Text.isBlank_of_mem blank c (split ▸ List.mem_cons_self)
    rw [Text.isBlank_of_isDigit digit] at solid
    cases solid
  | cons first later =>
    rw [trimmed] at whole
    obtain rfl : c = first := (List.cons.inj whole).1
    refine ⟨List.cons_ne_nil c later, ?_, fun other => absurd rfl other, fun _ => ⟨digit, ?_⟩⟩
    · simp only [remains]
      rw [whole]
      exact List.take_left
    · simp only [remains]
      rw [List.takeWhile_cons_of_pos known, trimmed]

/-- The tokens of what is left of a text cover it. -/
theorem tiles_of_scan {tokens : List Token} (scanned : scan style position rest = .ok tokens)
    (remains : text.drop position = rest) : Tiles style text position tokens := by
  fun_induction scan style position rest generalizing tokens with
  | case1 =>
    cases scanned
    exact .nil remains
  | case2 position c rest digit run =>
    rename_i ih
    obtain ⟨later, behind, rfl⟩ := scan_cons_eq_ok scanned
    obtain ⟨after, blank, whole, piece⟩ := isPiece_of_digit style remains digit
    have tiles := ih behind (drop_of_run (getElem?_of_drop remains).2 style.isNumeralChar)
    have reached : position + 1 + run.length =
        position + (Text.trimRight (c :: run)).length + after.length := by
      have lengths := congrArg List.length whole
      have parts := congrArg List.length
        (List.takeWhile_append_dropWhile (p := style.isNumeralChar) (l := rest))
      simp only [List.length_cons, List.length_append] at lengths parts
      simp only [run]
      omega
    rw [reached] at tiles
    have left : text.drop (position + (Text.trimRight (c :: run)).length) =
        after ++ rest.dropWhile style.isNumeralChar := by
      rw [← List.drop_drop, remains, whole]
      exact List.drop_left
    exact .cons piece (.skip left blank tiles)
  | case3 position c rest noDigit kind known ih =>
    obtain ⟨later, behind, rfl⟩ := scan_cons_eq_ok scanned
    exact .cons (isPiece_of_single remains known) (ih behind (getElem?_of_drop remains).2)
  | case4 position c rest noDigit noKind blank ih =>
    have only : Text.isBlankText [c] = true := by simp [Text.isBlankText, blank]
    have left : text.drop position = [c] ++ rest := remains
    exact .skip left only (ih scanned (getElem?_of_drop remains).2)
  | case5 position c rest noDigit noKind noBlank => cases scanned

/-! ### Strays -/

/-- A numeral that begins with a digit before a position goes on there. -/
def Continues (style : NumeralStyle) (text : Text) (position : Nat) : Prop :=
  ∃ start < position, text[start]?.any Char.isDigit = true ∧
    ∀ index, start < index → index ≤ position → text[index]?.any style.isNumeralChar = true

/-- A character is no blank, no digit, no operator and no parenthesis, and continues no numeral. -/
structure IsStray (style : NumeralStyle) (text : Text) (position : Nat) (c : Char) : Prop where
  here : text[position]? = some c
  solid : Text.isBlank c = false
  noDigit : c.isDigit = false
  unknown : c ∉ ['+', '-', '*', '/', '^', '(', ')']
  apart : ¬Continues style text position

theorem singleKind?_eq_none_iff :
    singleKind? c = none ↔ c ∉ ['+', '-', '*', '/', '^', '(', ')'] := by
  unfold singleKind? operators
  grind

/-- No numeral goes on behind a character that is neither a digit nor in a numeral. -/
theorem not_continues_succ (apart : ¬Continues style text position) (here : text[position]? = some c)
    (noDigit : c.isDigit = false) : ¬Continues style text (position + 1) := by
  rintro ⟨start, before, digit, inside⟩
  rcases Nat.lt_succ_iff_lt_or_eq.mp before with earlier | rfl
  · exact apart ⟨start, earlier, digit, fun index after until_ => inside index after (by omega)⟩
  · rw [here, Option.any_some, noDigit] at digit
    cases digit

theorem not_continues_of_ends (ends : text[position]?.any style.isNumeralChar = false) :
    ¬Continues style text position := by
  rintro ⟨start, before, _, inside⟩
  rw [inside position before (Nat.le_refl _)] at ends
  cases ends

theorem any_getElem?_of_mem_run {p : Char → Bool} {index : Nat} (remains : text.drop position = rest)
    (behind : position ≤ index) (inside : index < position + (rest.takeWhile p).length) :
    text[index]?.any p = true := by
  rw [← List.takeWhile_append_dropWhile (p := p) (l := rest)] at remains
  rw [getElem?_of_drop_append remains behind inside, List.getElem?_eq_getElem (by omega)]
  exact List.all_eq_true.mp (List.all_takeWhile (p := p)) _ (List.getElem_mem _)

/-- A run of a numeral has come to its end. -/
theorem any_getElem?_of_run (remains : text.drop position = rest.dropWhile style.isNumeralChar) :
    text[position]?.any style.isNumeralChar = false := by
  rw [← Nat.add_zero position, ← List.getElem?_drop, remains, ← List.head?_eq_getElem?]
  cases found : (rest.dropWhile style.isNumeralChar).head? with
  | none => rfl
  | some c =>
    have stops := List.head?_dropWhile_not style.isNumeralChar rest
    rw [found] at stops
    exact stops

/-- A scan breaks off at a stray, provided that it does not begin within a numeral. -/
theorem isStray_of_scan {stray : StrayCharacter} (scanned : scan style position rest = .error stray)
    (remains : text.drop position = rest) (apart : ¬Continues style text position) :
    IsStray style text stray.position stray.character := by
  fun_induction scan style position rest with
  | case1 => cases scanned
  | case2 position c rest digit run =>
    rename_i ih
    have tail := drop_of_run (getElem?_of_drop remains).2 style.isNumeralChar
    rcases Outcome.bind_eq_error_iff.mp scanned with behind | ⟨_, _, finished⟩
    · exact ih behind tail (not_continues_of_ends (any_getElem?_of_run tail))
    · cases finished
  | case3 position c rest noDigit kind known ih =>
    obtain ⟨here, tail⟩ := getElem?_of_drop remains
    rcases Outcome.bind_eq_error_iff.mp scanned with behind | ⟨_, _, finished⟩
    · exact ih behind tail (not_continues_succ apart here (by simpa using noDigit))
    · cases finished
  | case4 position c rest noDigit noKind blank ih =>
    obtain ⟨here, tail⟩ := getElem?_of_drop remains
    exact ih scanned tail (not_continues_succ apart here (by simpa using noDigit))
  | case5 position c rest noDigit noKind noBlank =>
    cases scanned
    exact ⟨(getElem?_of_drop remains).1, by simpa using noBlank, by simpa using noDigit,
      singleKind?_eq_none_iff.mp noKind, apart⟩

/-- No scan gets past a stray. -/
theorem exists_error_of_isStray {index : Nat} {d : Char} (isStray : IsStray style text index d)
    (remains : text.drop position = rest) (behind : position ≤ index) :
    ∃ stray, scan style position rest = .error stray ∧ stray.position ≤ index := by
  fun_induction scan style position rest with
  | case1 position =>
    have beyond : text.length ≤ index := Nat.le_trans (List.drop_eq_nil_iff.mp remains) behind
    have here := isStray.here
    rw [List.getElem?_eq_none beyond] at here
    cases here
  | case2 position c rest digit run =>
    rename_i ih
    obtain ⟨here, next⟩ := getElem?_of_drop remains
    by_cases later : position + 1 + run.length ≤ index
    · obtain ⟨stray, failed, before⟩ := ih (drop_of_run next style.isNumeralChar) later
      exact ⟨stray, Outcome.bind_eq_error_iff.mpr (.inl failed), before⟩
    · -- Within the run, the digit at its beginning is the one that is continued.
      rcases Nat.eq_or_lt_of_le behind with rfl | after
      · cases here.symm.trans isStray.here
        rw [isStray.noDigit] at digit
        cases digit
      · refine absurd ⟨position, after, by rw [here]; exact digit, fun i first last => ?_⟩ isStray.apart
        exact any_getElem?_of_mem_run next first (by simp only [run] at later; omega)
  | case3 position c rest noDigit kind known ih =>
    obtain ⟨here, next⟩ := getElem?_of_drop remains
    rcases Nat.eq_or_lt_of_le behind with rfl | after
    · cases here.symm.trans isStray.here
      rw [singleKind?_eq_none_iff.mpr isStray.unknown] at known
      cases known
    · obtain ⟨stray, failed, before⟩ := ih next after
      exact ⟨stray, Outcome.bind_eq_error_iff.mpr (.inl failed), before⟩
  | case4 position c rest noDigit noKind blank ih =>
    obtain ⟨here, next⟩ := getElem?_of_drop remains
    rcases Nat.eq_or_lt_of_le behind with rfl | after
    · cases here.symm.trans isStray.here
      rw [isStray.solid] at blank
      cases blank
    · exact ih next after
  | case5 position c rest noDigit noKind noBlank => exact ⟨_, rfl, behind⟩

theorem not_continues_zero : ¬Continues style text 0 := by
  rintro ⟨start, before, _⟩
  exact Nat.not_lt_zero start before

/-- Whether a character is a stray is settled by what stands up to it. -/
theorem IsStray.of_take {length : Nat} (isStray : IsStray style (text.take length) position c) :
    position < length ∧ IsStray style text position c := by
  have same {index : Nat} (inside : index < length) : (text.take length)[index]? = text[index]? :=
    List.getElem?_take_of_lt inside
  have inside : position < length := by
    refine Nat.lt_of_not_le fun beyond => ?_
    have found := isStray.here
    rw [List.getElem?_take_eq_none beyond] at found
    cases found
  refine ⟨inside, same inside ▸ isStray.here, isStray.solid, isStray.noDigit, isStray.unknown, ?_⟩
  rintro ⟨start, before, digit, goesOn⟩
  refine isStray.apart ⟨start, before, ?_, fun index after until_ => ?_⟩
  · rwa [same (by omega)]
  · rw [same (by omega)]
    exact goesOn index after until_

/-- The first stray of a text, if there is one, is what no token is found for. -/
theorem tokenize_eq_error_iff :
    tokenize style text = .error ⟨c, position⟩ ↔
      IsStray style text position c ∧ ∀ earlier < position, ∀ d, ¬IsStray style text earlier d := by
  constructor
  · intro failed
    refine ⟨isStray_of_scan failed List.drop_zero not_continues_zero, fun earlier before d isStray => ?_⟩
    obtain ⟨stray, other, first⟩ := exists_error_of_isStray isStray List.drop_zero (Nat.zero_le earlier)
    cases failed.symm.trans other
    exact Nat.not_lt_of_le first before
  · rintro ⟨isStray, first⟩
    obtain ⟨⟨d, before⟩, failed, le⟩ :=
      exists_error_of_isStray isStray List.drop_zero (Nat.zero_le position)
    have other := isStray_of_scan failed List.drop_zero not_continues_zero
    obtain rfl : before = position :=
      Nat.le_antisymm le (Nat.le_of_not_lt fun less => first before less d other)
    cases isStray.here.symm.trans other.here
    exact failed

/-- What stands before the first stray has tokens. -/
theorem exists_tokens_of_take (first : ∀ earlier < position, ∀ d, ¬IsStray style text earlier d) :
    ∃ tokens, tokenize style (text.take position) = .ok tokens := by
  cases result : tokenize style (text.take position) with
  | ok tokens => exact ⟨tokens, rfl⟩
  | error stray =>
    obtain ⟨inside, isStray⟩ := (tokenize_eq_error_iff.mp result).1.of_take
    exact absurd isStray (first _ inside _)

/-- Nothing is lost in tokens but blanks: they are pieces of the text in their order, and numerals are as
long as they can be. A text has no tokens exactly if it has a stray, and the first one is reported. -/
theorem tokenize_lossless (style : NumeralStyle) (text : Text) :
    (∀ tokens, tokenize style text = .ok tokens →
      tokens.Pairwise Token.Precedes ∧ (∀ token ∈ tokens, token.IsPiece style text) ∧
        ∀ index c, text[index]? = some c → (∀ token ∈ tokens, ¬token.Covers index) →
          Text.isBlank c = true) ∧
    ∀ position c, tokenize style text = .error ⟨c, position⟩ ↔
      (∃ tokens, tokenize style (text.take position) = .ok tokens) ∧ IsStray style text position c ∧
        ∀ earlier < position, ∀ d, ¬IsStray style text earlier d := by
  refine ⟨fun tokens scanned => ?_, fun position c => ?_⟩
  · have tiles : Tiles style text 0 tokens := tiles_of_scan scanned List.drop_zero
    exact ⟨tiles.ordered, fun token member => (tiles.pieces token member).2,
      fun index c found outside => tiles.gaps index c (Nat.zero_le index) found outside⟩
  · rw [tokenize_eq_error_iff]
    exact ⟨fun found => ⟨exists_tokens_of_take found.2, found⟩, And.right⟩

/-- A blank may separate groups or end a numeral, and the point of other styles does neither. -/
theorem tokenize_lossless_of_blank_groups :
    (∃ tokens,
      tokenize (.ofConventions "fr_FR" { point := ',', group := '\u202f' } 2 .halfEven)
        ['1', ' ', '2', ',', ' ', '*', '3'] = .ok tokens ∧
      tokens.map (·.text) = [['1', ' ', '2', ','], ['*'], ['3']] ∧
      tokens.Pairwise Token.Precedes ∧
      ∀ index c, ['1', ' ', '2', ',', ' ', '*', '3'][index]? = some c →
        (∀ token ∈ tokens, ¬token.Covers index) → Text.isBlank c = true) ∧
    tokenize (.ofConventions "fr_FR" { point := ',', group := '\u202f' } 2 .halfEven)
        ['1', ' ', '2', '.', '5', '€'] = .error ⟨'.', 3⟩ ∧
      IsStray (.ofConventions "fr_FR" { point := ',', group := '\u202f' } 2 .halfEven)
        ['1', ' ', '2', '.', '5', '€'] 3 '.' := by
  let french : NumeralStyle := .ofConventions "fr_FR" { point := ',', group := '\u202f' } 2 .halfEven
  have three : scan french 6 ['3'] = .ok [⟨.number, ['3'], 6⟩] :=
    (scan_digit rfl 6).trans (Outcome.bind_eq_ok_iff.mpr ⟨[], by rw [scan.eq_def]; rfl, rfl⟩)
  have times : scan french 5 ['*', '3'] = .ok [⟨.operator, ['*'], 5⟩, ⟨.number, ['3'], 6⟩] :=
    (scan_single rfl 5).trans (Outcome.bind_eq_ok_iff.mpr ⟨_, three, rfl⟩)
  have scanned : tokenize french ['1', ' ', '2', ',', ' ', '*', '3'] =
      .ok [⟨.number, ['1', ' ', '2', ','], 0⟩, ⟨.operator, ['*'], 5⟩, ⟨.number, ['3'], 6⟩] :=
    (scan_digit rfl 0).trans (Outcome.bind_eq_ok_iff.mpr ⟨_, times, rfl⟩)
  have point : scan french 3 ['.', '5', '€'] = .error ⟨'.', 3⟩ := by
    rw [scan]
    rfl
  have failed : tokenize french ['1', ' ', '2', '.', '5', '€'] = .error ⟨'.', 3⟩ :=
    (scan_digit rfl 0).trans (Outcome.bind_eq_error_iff.mpr (.inl point))
  obtain ⟨ordered, _, gaps⟩ := (tokenize_lossless french _).1 _ scanned
  obtain ⟨_, isStray, _⟩ := ((tokenize_lossless french _).2 3 '.').mp failed
  exact ⟨⟨_, scanned, rfl, ordered, gaps⟩, failed, isStray⟩

end MonetaryText.Expression
