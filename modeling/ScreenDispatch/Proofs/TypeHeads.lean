import Mathlib.Data.List.DropRight
import ScreenDispatch.Proofs.TypeGrammar

/-!
How types begin and what may stand behind them. The reader decides by the next token or two, so these are all that has
to be known about the tokens around a type.
-/
set_option autoImplicit false

namespace ScreenDispatch.Expr

open Token Script

section Heads

variable {ts : List Token} {t : Token}

theorem symbol_alone (symbol other : String) (found : t.isSymbol symbol) (different : symbol ≠ other) :
    t.isSymbol other = false := by
  unfold isSymbol
  rw [symbol_value symbol t found, beq_eq_false_iff_ne.mpr different, Bool.and_false]

theorem symbol_no_word (symbol : String) (found : t.isSymbol symbol) : t.kind ≠ .ident := by
  intro ident
  rw [isSymbol, ident] at found
  cases found

theorem run_symbol_missed {α : Type} (start : List Token) (symbol : String) (yes : Token → Script α) (no : Script α)
    (missed : startsWith symbol ts = false) : (Script.ifTake (isSymbol symbol) yes no).run start ts = no.run start ts := by
  cases ts with
  | nil => rfl
  | cons t rest => exact (run_if_take start rest t _ yes no).trans (if_neg (Bool.eq_false_iff.mp missed))

theorem run_symbol {α : Type} (start : List Token) (symbol : String) (yes : Token → Script α) (no : Script α)
    (found : t.isSymbol symbol) :
    (Script.ifTake (isSymbol symbol) yes no).run start (t :: ts) = (yes t).run start ts := by
  rw [run_if_take, if_pos found]

theorem mark_symbol (mark : isPostfixMark t) : t.isSymbol "?" ∨ t.isSymbol "!" := by
  rwa [isPostfixMark, Bool.or_eq_true] at mark

theorem skip_marks_symbol (symbol : String) (found : t.isSymbol symbol) (other : symbol ∉ ["?", "!"]) :
    skipMarks (t :: ts) = t :: ts := by
  simp only [List.mem_cons, List.not_mem_nil, or_false, not_or] at other
  rw [skipMarks, List.dropWhile_cons_of_neg]
  rw [isPostfixMark, symbol_alone symbol "?" found other.1, symbol_alone symbol "!" found other.2]
  exact Bool.false_ne_true

end Heads

def followers : List String := [",", ">", ":", "]", ")", "?", "!", "&"]

def Follows (ts : List Token) : Prop := ∀ t, ts.head? = some t → ∃ symbol ∈ followers, t.isSymbol symbol

theorem Follows.no_symbol {ts : List Token} (follows : Follows ts) (symbol : String) (other : symbol ∉ followers) :
    startsWith symbol ts = false := by
  cases ts with
  | nil => rfl
  | cons t rest =>
      obtain ⟨found, among, is⟩ := follows t rfl
      exact symbol_alone found symbol is fun same => other (same ▸ among)

theorem Follows.no_effects {ts : List Token} (follows : Follows ts) : skipEffects ts = ts := by
  cases ts with
  | nil => rfl
  | cons t rest =>
      obtain ⟨found, -, is⟩ := follows t rfl
      have noWord := symbol_no_word found is
      rw [skipEffects, List.dropWhile_cons_of_neg (by simp [isEffect, noWord])]

theorem follows_symbol (t : Token) (ts : List Token) (symbol : String) (found : t.isSymbol symbol)
    (among : symbol ∈ followers) : Follows (t :: ts) := by
  intro u first
  obtain rfl := Option.some.inj first
  exact ⟨symbol, among, found⟩

-- Reading on behind an operand, over its marks and the operands that are joined to it, leaves `rest`.
inductive Finishes (ts rest : List Token) : Prop where
  | stop (marks : skipMarks ts = rest) (alone : startsWith "&" rest = false)
  | joined (and : Token) (more : List Token) (marks : skipMarks ts = and :: more) (symbol : and.isSymbol "&")
      (onward : reads .type more = some ((), rest)) (unmarked : skipMarks rest = rest)
      (alone : startsWith "&" rest = false)

section Finishes

variable {ts rest ms : List Token}

theorem Finishes.unmarked (finishes : Finishes ts rest) : skipMarks rest = rest := by
  cases finishes with
  | stop marks alone => rw [← marks, skipMarks, skipMarks, List.dropWhile_idempotent]
  | joined and more marks symbol onward unmarked alone => exact unmarked

theorem Finishes.alone (finishes : Finishes ts rest) : startsWith "&" rest = false := by
  cases finishes with
  | stop marks alone => exact alone
  | joined and more marks symbol onward unmarked alone => exact alone

theorem finishes_symbol (t : Token) (ts : List Token) (symbol : String) (found : t.isSymbol symbol)
    (other : symbol ∉ ["?", "!", "&"]) : Finishes (t :: ts) (t :: ts) := by
  simp only [List.mem_cons, List.not_mem_nil, or_false, not_or] at other
  exact .stop (skip_marks_symbol symbol found (by simp [other])) (symbol_alone symbol "&" found other.2.2)

theorem skip_marks_append (ts : List Token) (marked : ∀ t ∈ ms, isPostfixMark t) :
    skipMarks (ms ++ ts) = skipMarks ts :=
  List.dropWhile_append_of_pos marked

theorem Finishes.marks (finishes : Finishes ts rest) (marked : ∀ t ∈ ms, isPostfixMark t) :
    Finishes (ms ++ ts) rest := by
  cases finishes with
  | stop same alone => exact .stop ((skip_marks_append ts marked).trans same) alone
  | joined and more same symbol onward unmarked alone =>
      exact .joined and more ((skip_marks_append ts marked).trans same) symbol onward unmarked alone

theorem Follows.marks (follows : Follows ts) (marked : ∀ t ∈ ms, isPostfixMark t) : Follows (ms ++ ts) := by
  cases ms with
  | nil => exact follows
  | cons t more =>
      obtain question | exclamation := mark_symbol (marked t List.mem_cons_self)
      · exact follows_symbol t _ "?" question (by decide)
      · exact follows_symbol t _ "!" exclamation (by decide)

end Finishes

theorem marks_head (symbol : String) (other : symbol ∉ ["?", "!"]) (marks ts : List Token)
    (marked : ∀ t ∈ marks, isPostfixMark t) (missed : startsWith symbol ts = false) :
    startsWith symbol (marks ++ ts) = false := by
  simp only [List.mem_cons, List.not_mem_nil, or_false, not_or] at other
  cases marks with
  | nil => exact missed
  | cons t more =>
      obtain question | exclamation := mark_symbol (marked t List.mem_cons_self)
      · exact symbol_alone "?" symbol question (Ne.symm other.1)
      · exact symbol_alone "!" symbol exclamation (Ne.symm other.2)

theorem members_head (symbol : String) (other : symbol ≠ ".") (members ts : List Token)
    (derived : Derives .members members) (missed : startsWith symbol ts = false) :
    startsWith symbol (members ++ ts) = false := by
  cases derived with
  | noMember => exact missed
  | member dot name found ident first onward => exact symbol_alone "." symbol found (Ne.symm other)

theorem arguments_head (symbol : String) (other : symbol ≠ "<") (arguments ts : List Token)
    (derived : Derives .optionalArguments arguments) (missed : startsWith symbol ts = false) :
    startsWith symbol (arguments ++ ts) = false := by
  cases derived with
  | noArguments => exact missed
  | bracketed opening closing opens closes inside => exact symbol_alone "<" symbol opens (Ne.symm other)

def Category.begins : Category → Bool
  | .type | .operand | .element | .elements => true
  | _ => false

theorem starts_operand_append (xs ts : List Token) (starts : startsOperand xs) : startsOperand (xs ++ ts) := by
  cases xs with
  | nil => cases starts
  | cons t rest => exact starts

theorem derived_starts (category : Category) (xs : List Token) (derived : Derives category xs)
    (begins : category.begins) : startsOperand xs := by
  induction derived with
  | single operand ih | plain item ih | lastElement item ih => exact ih rfl
  | joined and symbol operand onward ih _ | nextElement comma separator item onward ih _ =>
      exact starts_operand_append _ _ (ih rfl)
  | prefixed word isPrefix operand ih => simp [startsOperand, prefix_kind word isPrefix]
  | named name ident | labelled name colon ident => simp [startsOperand, ident]
  | array opening closing opens | dictionary opening colon closing opens | unit opening closing opens
  | tuple opening closing opens => simp [startsOperand, opens]
  | _ => cases begins

theorem operand_no_symbol (symbol : String) (other : symbol ∉ ["(", "["]) (xs ts : List Token)
    (starts : startsOperand xs) : startsWith symbol (xs ++ ts) = false := by
  simp only [List.mem_cons, List.not_mem_nil, or_false, not_or] at other
  cases xs with
  | nil => cases starts
  | cons t rest =>
      rw [startsOperand, Bool.or_eq_true, Bool.or_eq_true, beq_iff_eq] at starts
      refine Bool.eq_false_iff.mpr fun found => ?_
      have value := symbol_value symbol t found
      obtain (ident | round) | square := starts
      · exact symbol_no_word symbol found ident
      · exact other.1 (value.symm.trans ((punctuation_iff _ _).mp round).2)
      · exact other.2 (value.symm.trans ((punctuation_iff _ _).mp square).2)

def labels : List Token → Bool
  | [] => false
  | t :: rest => t.kind == .ident && startsWith ":" rest

theorem not_labels_punctuation (symbol : String) (t : Token) (ts : List Token) (found : t.isPunctuation symbol) :
    labels (t :: ts) = false := by
  rw [labels, ((punctuation_iff symbol t).mp found).1]
  rfl

theorem type_no_label (category : Category) (xs : List Token) (derived : Derives category xs)
    (typed : category = .type ∨ category = .operand) (ts : List Token) (behind : startsWith ":" ts = false) :
    labels (xs ++ ts) = false := by
  induction derived generalizing ts with
  | single operand ih => exact ih (.inr rfl) ts behind
  | joined and symbol operand onward ih _ =>
      rw [List.append_assoc]
      exact ih (.inr rfl) _ (symbol_alone "&" ":" symbol (by decide))
  | prefixed word isPrefix operand ih =>
      have second := operand_no_symbol ":" (by decide) _ ts (derived_starts _ _ operand rfl)
      rw [List.cons_append, labels, second, Bool.and_false]
  | named name ident noPrefix first members marked =>
      have second := arguments_head ":" (by decide) _ _ first
        (members_head ":" (by decide) _ _ members (marks_head ":" (by decide) _ ts marked behind))
      rw [List.cons_append, List.append_assoc, List.append_assoc, labels, second, Bool.and_false]
  | array opening closing opens | dictionary opening colon closing opens | unit opening closing opens
  | tuple opening closing opens => exact not_labels_punctuation _ opening _ opens
  | _ => obtain same | same := typed <;> cases same

end ScreenDispatch.Expr
