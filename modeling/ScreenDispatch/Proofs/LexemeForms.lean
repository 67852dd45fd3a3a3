import ScreenDispatch.Proofs.JoinedTexts
import ScreenDispatch.Proofs.NameLexeme

/-!
The forms of lexemes. At every place of a text there is a lexeme, and it is white space or has the form of its kind.
-/
set_option autoImplicit false

namespace ScreenDispatch.Token

open Text

inductive Spelled : Option TokenKind → List Char → Prop where
  | space (cs : List Char) (filled : cs ≠ []) (blank : ∀ c ∈ cs, isBlank c) : Spelled none cs
  | string (body : List Char) (inside : StringBody body) : Spelled (some .string) ('"' :: (body ++ ['"']))
  | number (cs : List Char) (number : IsNumber cs) : Spelled (some .number) cs
  | ticked (name : List Char) (identifier : isIdentifier name) : Spelled (some .ident) ('\x60' :: (name ++ ['\x60']))
  | word (cs : List Char) (word : isWord cs) : Spelled (some .ident) cs
  | arrow : Spelled (some .arrow) ['-', '>']
  | punct (c : Char) (mark : isPunct c) : Spelled (some .punct) [c]
  | other (c : Char) (solid : isBlank c = false) : Spelled (some .other) [c]

theorem digit_run_taken (d : Char) (rest : List Char) (digit : isDigit d) :
    isDigitRun (d :: rest.takeWhile isNumberChar) := by
  rw [isDigitRun, digit, List.all_takeWhile]
  rfl

theorem number_spelled (c : Char) (rest : List Char) (digit : isDigit c) : IsNumber (c :: rest.take (numberTail rest)) := by
  rw [number_tail_eq, List.take_add, take_while_taken]
  have whole := digit_run_taken c rest digit
  generalize rest.drop (rest.takeWhile isNumberChar).length = behind
  unfold fractionTail
  split
  · rename_i d more
    split
    · rename_i place
      rw [Nat.add_comm, List.take_succ_cons, List.take_succ_cons, take_while_taken]
      exact .inr ⟨_, d :: more.takeWhile isNumberChar, rfl, whole, digit_run_taken d more place⟩
    · rw [List.take_zero, List.append_nil]
      exact .inl whole
  · rw [List.take_zero, List.append_nil]
    exact .inl whole

theorem ticked_spelled (rest : List Char) (n : Nat) (closed : backtickTail rest = some n) :
    ∃ name, rest.take n = name ++ ['\x60'] ∧ isIdentifier name := by
  cases rest with
  | nil => cases closed
  | cons c rest =>
      obtain ⟨start, tick, rfl⟩ := (backtick_tail_cons c rest n).mp closed
      obtain ⟨back, behind⟩ := List.head?_eq_some_iff.mp tick
      refine ⟨c :: rest.takeWhile isIdentifierChar, ?_, ?_⟩
      · rw [List.take_succ_cons, List.take_add, take_while_taken, behind]
        rfl
      · rw [isIdentifier, start, List.all_takeWhile]
        rfl

theorem lexeme_spelled (c : Char) (rest : List Char) : Spelled (lexeme c rest).1 (c :: rest.take (lexeme c rest).2) := by
  unfold lexeme
  split
  · rename_i blank
    rw [take_while_taken]
    exact .space _ (List.cons_ne_nil _ _) (List.forall_mem_cons.mpr ⟨blank, fun d inside => List.mem_takeWhile_imp inside⟩)
  rename_i notBlank
  have solid : isBlank c = false := by simpa using notBlank
  split
  · rename_i quote
    subst quote
    split
    · rename_i n closed
      obtain ⟨body, text, inside⟩ := closing_quote_body rest n closed
      rw [text]
      exact .string body inside
    · exact .other _ solid
  split
  · rename_i digit
    exact .number _ (number_spelled c rest digit)
  split
  · rename_i tick
    subst tick
    split
    · rename_i n closed
      obtain ⟨name, text, identifier⟩ := ticked_spelled rest n closed
      rw [text]
      exact .ticked name identifier
    · exact .other _ solid
  split
  · rename_i start
    rw [take_while_taken]
    refine .word _ ?_
    rw [isWord, List.all_takeWhile, Bool.and_true]
    exact start
  split
  · rename_i arrow
    obtain ⟨rfl, next⟩ := arrow
    obtain ⟨back, rfl⟩ := List.head?_eq_some_iff.mp next
    exact .arrow
  split
  · rename_i mark
    exact .punct c mark
  · exact .other c solid

theorem Spelled.filled {kind : Option TokenKind} {cs : List Char} (spelled : Spelled kind cs) : cs ≠ [] := by
  cases spelled with
  | space cs filled => exact filled
  | number cs number =>
      obtain ⟨d, rest, rfl, -⟩ := number_head cs number
      exact List.cons_ne_nil d rest
  | word cs word =>
      obtain ⟨c, rest, rfl, -⟩ := word_head cs word
      exact List.cons_ne_nil c rest
  | string | ticked | arrow | punct | other => exact List.cons_ne_nil _ _

theorem punct_no_blank (c : Char) (mark : isPunct c) : isBlank c = false := by
  have found := punct_lexeme c [] mark
  rw [← Bool.not_eq_true]
  intro blank
  rw [lexeme, if_pos blank] at found
  cases found

theorem number_solid (cs : List Char) (number : IsNumber cs) : ∀ c ∈ cs, isBlank c = false := by
  obtain run | ⟨whole, places, rfl, run, fraction⟩ := number
  · exact digit_run_solid cs run
  · refine List.forall_mem_append.mpr ⟨digit_run_solid whole run, ?_⟩
    exact List.forall_mem_cons.mpr ⟨by decide, digit_run_solid places fraction⟩

theorem Spelled.no_blank {kind : TokenKind} {cs : List Char} (spelled : Spelled (some kind) cs) (other : kind ≠ .string) :
    ∀ c ∈ cs, isBlank c = false := by
  cases spelled with
  | string => contradiction
  | number cs number => exact number_solid cs number
  | ticked name identifier =>
      have inside (c : Char) (member : c ∈ name) : isBlank c = false :=
        Token.no_blank isIdentifierChar parts_no_word c (List.all_eq_true.mp (identifier_chars name identifier) c member)
      refine List.forall_mem_cons.mpr ⟨by decide, List.forall_mem_append.mpr ⟨inside, ?_⟩⟩
      exact List.forall_mem_singleton.mpr (by decide)
  | word cs word => exact word_solid cs word
  | arrow => exact List.forall_mem_cons.mpr ⟨by decide, List.forall_mem_singleton.mpr (by decide)⟩
  | punct c mark => exact List.forall_mem_singleton.mpr (punct_no_blank c mark)
  | other c solid => exact List.forall_mem_singleton.mpr solid

structure SolidEnds (cs : List Char) : Prop where
  first : ∃ c, cs.head? = some c ∧ isBlank c = false
  last : ∃ c, cs.getLast? = some c ∧ isBlank c = false

theorem Spelled.solid_ends {kind : TokenKind} {cs : List Char} (spelled : Spelled (some kind) cs) : SolidEnds cs := by
  by_cases string : kind = .string
  · subst string
    cases spelled with
    | string body inside =>
        refine ⟨⟨'"', rfl, by decide⟩, '"', ?_, by decide⟩
        rw [← List.cons_append, List.getLast?_concat]
  · have solid := spelled.no_blank string
    have first := List.head?_eq_some_head spelled.filled
    have last := List.getLast?_eq_some_getLast spelled.filled
    exact ⟨⟨_, first, solid _ (List.mem_of_head? first)⟩, _, last, solid _ (List.mem_of_getLast? last)⟩

theorem Spelled.quoted {cs : List Char} (spelled : Spelled (some .string) cs) :
    ∃ body, cs = '"' :: (body ++ ['"']) ∧ StringBody body := by
  cases spelled with
  | string body inside => exact ⟨body, rfl, inside⟩

theorem StringBody.one_line {body : List Char} (inside : StringBody body) : '\n' ∉ body := by
  induction inside with
  | nil => exact List.not_mem_nil
  | plain c _ _ noLine _ ih => exact List.not_mem_cons_of_ne_of_not_mem (Ne.symm noLine) ih
  | escape c noLine _ ih =>
      refine List.not_mem_cons_of_ne_of_not_mem (by decide) ?_
      exact List.not_mem_cons_of_ne_of_not_mem (Ne.symm noLine) ih

theorem Spelled.one_line {kind : TokenKind} {cs : List Char} (spelled : Spelled (some kind) cs) : '\n' ∉ cs := by
  by_cases string : kind = .string
  · subst string
    obtain ⟨body, rfl, inside⟩ := spelled.quoted
    simpa using inside.one_line
  · intro feed
    cases spelled.no_blank string '\n' feed

theorem scan_spelled (pos : Nat) (cs : List Char) (t : Token) (present : t ∈ scanFrom pos cs) :
    Spelled (some t.kind) t.value.toList := by
  refine scanned_of_lexeme (fun t => Spelled (some t.kind) t.value.toList) pos cs ?_ t present
  intro c rest kind start stop _ found
  rw [String.toList_ofList, ← found]
  exact lexeme_spelled c rest

theorem Spelled.is_number {cs : List Char} (spelled : Spelled (some .number) cs) : IsNumber cs := by
  cases spelled with
  | number cs number => exact number

theorem scanned_number (pos : Nat) (cs : List Char) (t : Token) (present : t ∈ scanFrom pos cs)
    (number : t.kind = .number) : IsNumber t.value.toList := by
  have spelled := scan_spelled pos cs t present
  rw [number] at spelled
  exact spelled.is_number

theorem ident_lexeme (c : Char) (rest : List Char) (noTick : c ≠ '\x60')
    (found : (lexeme c rest).1 = some .ident) : startsWord c := by
  have spelled := lexeme_spelled c rest
  rw [found] at spelled
  generalize same : c :: rest.take (lexeme c rest).2 = cs at spelled
  cases spelled with
  | ticked name identifier => exact absurd (List.cons.inj same).1 noTick
  | word cs word =>
      subst same
      exact ((Bool.and_eq_true _ _).mp word).1

theorem scanned_word (pos : Nat) (cs : List Char) (noTick : '\x60' ∉ cs) (t : Token) (present : t ∈ scanFrom pos cs)
    (ident : t.kind = .ident) : isWord t.value.toList := by
  revert ident
  refine scanned_of_lexeme (fun t => t.kind = .ident → isWord t.value.toList) pos cs ?_ t present
  rintro c rest kind start stop member found rfl
  have word := ident_lexeme c rest (fun tick => noTick (tick ▸ member)) found
  rw [word_lexeme c rest word, take_while_taken, String.toList_ofList]
  exact (Bool.and_eq_true _ _).mpr ⟨word, List.all_takeWhile⟩

end ScreenDispatch.Token
