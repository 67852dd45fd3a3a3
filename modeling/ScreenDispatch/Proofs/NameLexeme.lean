import ScreenDispatch.Proofs.LexemeBoundary

/-!
Names and numbers as text. A name is one token wherever no character of a name follows it, and of a number it
matters whether a fraction follows.
-/
set_option autoImplicit false

namespace ScreenDispatch.Token

open Text

def startsWord (c : Char) : Bool := isIdentifierStart c || decide (c = '$')

def startTable : CharSet := [⟨0x24, 0x24⟩, ⟨0x41, 0x5a⟩, ⟨0x5f, 0x5f⟩, ⟨0x61, 0x7a⟩]

theorem starts_word_table (c : Char) (start : startsWord c) : startTable.has c := by
  have bounds (a b : Char) : a ≤ b ↔ a.toNat ≤ b.toNat := Iff.rfl
  simp only [startsWord, isIdentifierStart, isAsciiLetter, Bool.or_eq_true, Bool.and_eq_true, decide_eq_true_eq,
    beq_iff_eq, bounds] at start
  simp only [startTable, CharSet.has, List.any_cons, List.any_nil, Bool.or_eq_true, CodeRange.has,
    Bool.and_eq_true, decide_eq_true_eq]
  obtain ((low | high) | rfl) | rfl := start
  · exact .inr (.inr (.inr (.inl low)))
  · exact .inr (.inl high)
  · exact .inr (.inr (.inl ⟨by decide, by decide⟩))
  · exact .inl ⟨by decide, by decide⟩

theorem starts_word_no_digit (c : Char) (start : startsWord c) : isDigit c = false :=
  has_apart startTable digitTable (by decide) c (starts_word_table c start)

theorem starts_word_no_blank (c : Char) (start : startsWord c) : isBlank c = false :=
  has_apart startTable blankTable (by decide) c (starts_word_table c start)

theorem word_lexeme (c : Char) (rest : List Char) (start : startsWord c) :
    lexeme c rest = (some .ident, (rest.takeWhile isIdentifierChar).length) := by
  have noQuote : c ≠ '"' := by
    rintro rfl
    cases start
  have noTick : c ≠ '\x60' := by
    rintro rfl
    cases start
  have word : (isIdentifierStart c || decide (c = '$')) = true := start
  rw [lexeme, if_neg (by simp [starts_word_no_blank c start]), if_neg noQuote,
    if_neg (by simp [starts_word_no_digit c start]), if_neg noTick, if_pos word]

theorem digit_lexeme (c : Char) (rest : List Char) (digit : isDigit c) :
    lexeme c rest = (some .number, numberTail rest) := by
  have noQuote : c ≠ '"' := by
    rintro rfl
    exact absurd digit (by decide)
  rw [lexeme, if_neg (by simp [no_blank isDigit parts_no_digit c digit]), if_neg noQuote, if_pos digit]

def isWord : List Char → Bool
  | [] => false
  | c :: rest => startsWord c && rest.all isIdentifierChar

def isDigitRun : List Char → Bool
  | [] => false
  | d :: rest => isDigit d && rest.all isNumberChar

theorem word_head (w : List Char) (word : isWord w) : ∃ c rest, w = c :: rest ∧ startsWord c := by
  cases w with
  | nil => cases word
  | cons c rest => exact ⟨c, rest, rfl, ((Bool.and_eq_true _ _).mp word).1⟩

theorem digit_run_head (run : List Char) (digits : isDigitRun run) : ∃ d rest, run = d :: rest ∧ isDigit d := by
  cases run with
  | nil => cases digits
  | cons d rest => exact ⟨d, rest, rfl, ((Bool.and_eq_true _ _).mp digits).1⟩

theorem word_plain (w : List Char) (word : isWord w) : w.head? ≠ some '\x60' := by
  obtain ⟨c, rest, rfl, start⟩ := word_head w word
  rintro ⟨⟩
  exact absurd start (by decide)

theorem word_solid (w : List Char) (word : isWord w) : ∀ c ∈ w, isBlank c = false := by
  cases w with
  | nil => cases word
  | cons c rest =>
      obtain ⟨start, chars⟩ := (Bool.and_eq_true _ _).mp word
      exact List.forall_mem_cons.mpr ⟨starts_word_no_blank c start,
        fun d inside => no_blank isIdentifierChar parts_no_word d (List.all_eq_true.mp chars d inside)⟩

theorem digit_run_solid (run : List Char) (digits : isDigitRun run) : ∀ c ∈ run, isBlank c = false := by
  cases run with
  | nil => cases digits
  | cons d rest =>
      obtain ⟨digit, chars⟩ := (Bool.and_eq_true _ _).mp digits
      exact List.forall_mem_cons.mpr ⟨no_blank isDigit parts_no_digit d digit,
        fun e inside => no_blank isNumberChar parts_no_number e (List.all_eq_true.mp chars e inside)⟩

def IsNumber (cs : List Char) : Prop :=
  isDigitRun cs ∨ ∃ whole places, cs = whole ++ '.' :: places ∧ isDigitRun whole ∧ isDigitRun places

theorem number_head (cs : List Char) (number : IsNumber cs) : ∃ d rest, cs = d :: rest ∧ isDigit d := by
  obtain run | ⟨whole, places, rfl, run, _⟩ := number
  · exact digit_run_head cs run
  · obtain ⟨d, rest, rfl, digit⟩ := digit_run_head whole run
    exact ⟨d, rest ++ '.' :: places, rfl, digit⟩

theorem number_plain (cs : List Char) (number : IsNumber cs) : cs.head? ≠ some '\x60' := by
  obtain ⟨d, rest, rfl, digit⟩ := number_head cs number
  rintro ⟨⟩
  exact absurd digit (by decide)

theorem scan_lexeme (pos : Nat) (c : Char) (own ys : List Char) (kind : TokenKind)
    (lexed : lexeme c (own ++ ys) = (some kind, own.length)) :
    scanFrom pos (c :: own ++ ys) =
      ⟨kind, String.ofList (c :: own), pos, pos + (c :: own).length⟩ :: scanFrom (pos + (c :: own).length) ys := by
  have place : pos + 1 + own.length = pos + (c :: own).length := by
    rw [List.length_cons]
    omega
  rw [List.cons_append, scan_from_token _ _ _ kind (by rw [lexed]), lexed, List.take_left', List.drop_left', place]
  all_goals rfl

theorem scan_word (pos : Nat) (w ys : List Char) (word : isWord w)
    (stop : ∀ c, ys.head? = some c → isIdentifierChar c = false) :
    scanFrom pos (w ++ ys) = ⟨.ident, String.ofList w, pos, pos + w.length⟩ :: scanFrom (pos + w.length) ys := by
  cases w with
  | nil => cases word
  | cons c rest =>
      obtain ⟨start, chars⟩ := (Bool.and_eq_true _ _).mp word
      exact scan_lexeme pos c rest ys .ident (by rw [word_lexeme c _ start, take_while_all _ rest ys chars stop])

theorem scan_digit_run (pos : Nat) (ds ys : List Char) (run : isDigitRun ds)
    (stop : ∀ c, ys.head? = some c → isNumberChar c = false)
    (noFraction : ∀ d rest, ys = '.' :: d :: rest → isDigit d = false) :
    scanFrom pos (ds ++ ys) = ⟨.number, String.ofList ds, pos, pos + ds.length⟩ :: scanFrom (pos + ds.length) ys := by
  cases ds with
  | nil => cases run
  | cons d rest =>
      obtain ⟨digit, chars⟩ := (Bool.and_eq_true _ _).mp run
      have fraction : fractionTail ys = 0 := by
        unfold fractionTail
        split
        · rename_i d more
          rw [if_neg (by simp [noFraction d more rfl])]
        · rfl
      refine scan_lexeme pos d rest ys .number ?_
      rw [digit_lexeme d _ digit, number_tail_eq, take_while_all _ rest ys chars stop, List.drop_left, fraction]
      rfl

theorem scan_fraction (pos : Nat) (ds places ys : List Char) (whole : isDigitRun ds) (fraction : isDigitRun places)
    (stop : ∀ c, ys.head? = some c → isNumberChar c = false) :
    scanFrom pos (ds ++ '.' :: places ++ ys) =
      ⟨.number, String.ofList (ds ++ '.' :: places), pos, pos + (ds ++ '.' :: places).length⟩ ::
        scanFrom (pos + (ds ++ '.' :: places).length) ys := by
  cases ds with
  | nil => cases whole
  | cons d rest =>
      cases places with
      | nil => cases fraction
      | cons e more =>
          obtain ⟨digit, chars⟩ := (Bool.and_eq_true _ _).mp whole
          obtain ⟨place, others⟩ := (Bool.and_eq_true _ _).mp fraction
          refine scan_lexeme pos d (rest ++ '.' :: e :: more) ys .number ?_
          rw [digit_lexeme d _ digit, number_tail_eq, List.append_assoc, take_while_all _ rest _ chars, List.drop_left,
            List.cons_append, List.cons_append, fractionTail, if_pos place, take_while_all _ more ys others stop,
            List.length_append]
          · simp only [List.length_cons]
            congr 1
            omega
          · intro c head
            cases head
            decide

theorem take_while_taken (p : Char → Bool) (cs : List Char) : cs.take (cs.takeWhile p).length = cs.takeWhile p :=
  (List.prefix_iff_eq_take.mp (List.takeWhile_prefix p)).symm

end ScreenDispatch.Token
