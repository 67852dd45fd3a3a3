import ScreenDispatch.Proofs.LexemeForms
import ScreenDispatch.Proofs.MovedTokens
import ScreenDispatch.Proofs.SelfSuffix
import ScreenDispatch.Proofs.TypeTokens

/-!
Generic arguments as text. The text of an argument has the tokens of a type wherever it stands, so a list of
arguments that is written anew, with one space behind each comma, is read to the same arguments.
-/
set_option autoImplicit false

namespace ScreenDispatch.Expr

open Text Token

theorem type_lexeme (c : Char) (rest : List Char) (kind : TokenKind) (noTick : c ≠ '\x60')
    (found : (lexeme c rest).1 = some kind)
    (typed : kind = .ident ∨ String.ofList (c :: rest.take (lexeme c rest).2) ∈ typeSymbols) :
    startsWord c ∨ (c = '-' ∧ rest.head? = some '>') ∨ isPunct c := by
  obtain rfl | symbol := typed
  · exact .inl (ident_lexeme c rest noTick found)
  have heads : typeSymbols.all fun symbol => symbol.toList.head?.all fun c => isPunct c || c == '-' := by decide
  have head := List.all_eq_true.mp heads _ symbol
  rw [String.toList_ofList, List.head?_cons, Option.all_some, Bool.or_eq_true, beq_iff_eq] at head
  obtain punct | rfl := head
  · exact .inr (.inr punct)
  by_cases arrow : rest.head? = some '>'
  · exact .inr (.inl ⟨rfl, arrow⟩)
  · have alone : (lexeme '-' rest).2 = 0 := by
      rw [lexeme, if_neg (by decide), if_neg (by decide), if_neg (by decide), if_neg (by decide), if_neg (by decide),
        if_neg fun both => arrow both.2, if_neg (by decide)]
    rw [alone, List.take_zero] at symbol
    exact absurd symbol (by decide)

def EndsType (ys : List Char) : Prop := ∀ c, ys.head? = some c → c = ',' ∨ c = '>'

theorem type_lexeme_ends (c : Char) (rest ys : List Char)
    (lexed : startsWord c ∨ (c = '-' ∧ rest.head? = some '>') ∨ isPunct c)
    (stop : EndsType ys) : (lexeme c (rest ++ ys)).2 ≤ rest.length := by
  obtain word | ⟨rfl, arrow⟩ | punct := lexed
  · have stops (d : Char) (head : ys.head? = some d) : isIdentifierChar d = false := by
      obtain rfl | rfl := stop d head <;> decide
    rw [word_lexeme c _ word]
    exact take_while_stop isIdentifierChar rest ys stops
  · obtain ⟨more, rfl⟩ := List.head?_eq_some_iff.mp arrow
    rw [List.cons_append, lexeme, if_neg (by decide), if_neg (by decide), if_neg (by decide), if_neg (by decide),
      if_neg (by decide), if_pos ⟨rfl, rfl⟩, List.length_cons]
    exact Nat.le_add_left 1 _
  · rw [punct_lexeme c _ punct]
    exact Nat.zero_le _

theorem blank_of_lexeme (c : Char) (rest : List Char) (found : (lexeme c rest).1 = none) : isBlank c := by
  unfold lexeme at found
  split at found
  · assumption
  split at found
  · split at found <;> cases found
  split at found
  · cases found
  split at found
  · split at found <;> cases found
  split at found
  · cases found
  split at found
  · cases found
  split at found <;> cases found

theorem ends_of_types (pos : Nat) (cs ys : List Char) (noTick : '\x60' ∉ cs)
    (typed : ∀ t ∈ scanFrom pos cs, TypeToken t) (stop : EndsType ys) : Ends ys cs := by
  induction pos, cs using scan_induction with
  | empty pos => exact .nil
  | blank pos c rest blank ih =>
      rw [scan_from_blank _ _ _ blank] at typed
      have later : '\x60' ∉ rest.drop (lexeme c rest).2 := fun tick =>
        noTick (List.mem_cons_of_mem c (List.mem_of_mem_drop tick))
      refine .cons c rest ?_ (ih later typed)
      rw [lexeme, if_pos (blank_of_lexeme c rest blank)]
      refine take_while_stop isBlank rest ys fun d head => ?_
      obtain rfl | rfl := stop d head <;> decide
  | token pos c rest kind found ih =>
      rw [scan_from_token _ _ _ kind found] at typed
      have later : '\x60' ∉ rest.drop (lexeme c rest).2 := fun tick =>
        noTick (List.mem_cons_of_mem c (List.mem_of_mem_drop tick))
      have lexed := type_lexeme c rest kind (fun tick => noTick (tick ▸ List.mem_cons_self)) found
        (typed _ List.mem_cons_self)
      exact .cons c rest (type_lexeme_ends c rest ys lexed stop)
        (ih later fun t inside => typed t (List.mem_cons_of_mem _ inside))

def bare (t : Token) : Token := { t with start := 0, stop := 0 }

theorem bare_keeps : KeepsText bare := ⟨fun _ => rfl, fun _ => rfl⟩

theorem bare_shifted (offset : Nat) (ts : List Token) : (ts.map (shifted offset)).map bare = ts.map bare := by
  rw [List.map_map]
  rfl

theorem type_moved (ts : List Token) :
    reads .type (ts.map bare) = (reads .type ts).map fun r => ((), r.2.map bare) := by
  have agree := reads_move bare_keeps .type ts
  unfold MovesAt at agree
  change MovedOutcome bare _ _ (reads .type (ts.map bare)) at agree
  generalize reads .type (ts.map bare) = other at agree ⊢
  generalize reads .type ts = read at agree ⊢
  cases agree with
  | none => rfl
  | some both =>
      rename_i first second
      obtain ⟨_, more⟩ := second
      obtain ⟨_, rfl⟩ := both
      rfl

theorem type_stopped (xs ys : List Token) (stop other : Token) (more others : List Token)
    (same : xs.map bare = ys.map bare) (sameStop : bare stop = bare other) (firm : Firm stop)
    (read : reads .type (xs ++ stop :: more) = some ((), stop :: more)) :
    reads .type (ys ++ other :: others) = some ((), other :: others) := by
  have settled (us : List Token) (u : Token) (behind front : List Token) (firm : Firm u)
      (read : reads .type (us ++ u :: behind) = some ((), u :: behind)) :
      reads .type (us ++ u :: front) = some ((), u :: front) := by
    obtain ⟨taken, whole, settled⟩ := reads_settles .type _ rfl () _ read
    obtain rfl := List.append_cancel_right whole
    simpa using settled.stopped [] u behind rfl firm front
  have alone := type_moved (xs ++ [stop])
  rw [settled xs stop more [] firm read, List.map_append, same, List.map_singleton, sameStop, ← List.map_singleton,
    ← List.map_append, type_moved] at alone
  obtain ⟨⟨_, rest⟩, found, moved⟩ := Option.map_eq_some_iff.mp alone
  -- One token is left, and it is the last one.
  obtain ⟨u, rfl⟩ : ∃ u, rest = [u] := by
    have one := congrArg (fun r : Unit × List Token => r.2.length) moved
    simp only [List.length_map] at one
    exact List.length_eq_one_iff.mp one
  obtain ⟨front, whole⟩ := reads_suffix .type _ () _ found
  obtain ⟨_, last⟩ := List.append_inj' whole rfl
  cases last
  have kind : stop.kind = other.kind := (congrArg Token.kind sameStop : (bare stop).kind = (bare other).kind)
  have value : stop.value = other.value := (congrArg Token.value sameStop : (bare stop).value = (bare other).value)
  refine settled ys other [] others ?_ found
  unfold Firm isSymbol at firm ⊢
  rwa [← kind, ← value]

structure ArgumentText (mark text : String) : Prop where
  noTick : '\x60' ∉ text.toList
  typed : ∀ t ∈ scan text, TypeToken t
  spans : textOf text.toList (scan text) = text
  stopped : ∃ stop more, stop.kind = .punct ∧ stop.value = mark ∧
    reads .type (scan text ++ stop :: more) = some ((), stop :: more)

inductive ArgumentTexts : List String → Prop where
  | last (text : String) (argument : ArgumentText ">" text) : ArgumentTexts [text]
  | more (text : String) (others : List String) (argument : ArgumentText "," text) (behind : ArgumentTexts others) :
      ArgumentTexts (text :: others)

def argumentsText (arguments : List String) : String := String.intercalate ", " arguments ++ ">"

theorem arguments_text_cons (text : String) (others : List String) (behind : ArgumentTexts others) :
    argumentsText (text :: others) = text ++ ", " ++ argumentsText others := by
  rw [argumentsText, argumentsText, ← String.append_assoc]
  cases behind with
  | last | more => rw [String.intercalate_cons_cons]

theorem scan_at (pos : Nat) (text : String) : scanFrom pos text.toList = (scan text).map (shifted pos) := by
  rw [scan, ← scan_shifted, Nat.zero_add]

theorem scan_sign (pos : Nat) (c : Char) (rest : List Char) (sign : isPunct c) :
    ∃ t, t.kind = .punct ∧ t.value = String.ofList [c] ∧ scanFrom pos (c :: rest) = t :: scanFrom (pos + 1) rest :=
  ⟨_, rfl, rfl, scan_lexeme pos c [] rest .punct (punct_lexeme c rest sign)⟩

theorem scan_space (pos : Nat) (rest : List Char) : scanFrom pos (' ' :: rest) = scanFrom (pos + 1) rest := by
  -- The space is one piece of white space with what follows it.
  have blanks : ∀ c ∈ rest.takeWhile isBlank, isBlank c := List.all_eq_true.mp List.all_takeWhile
  have behind (c : Char) (head : (rest.dropWhile isBlank).head? = some c) : isBlank c = false := by
    have other := List.head?_dropWhile_not isBlank rest
    rw [head] at other
    exact other
  have whole := List.takeWhile_append_dropWhile (p := isBlank) (l := rest)
  rw [← whole, scan_blanks (pos + 1) _ _ blanks behind, ← List.cons_append,
    scan_blanks pos _ _ (List.forall_mem_cons.mpr ⟨by decide, blanks⟩) behind, List.length_cons]
  congr 1
  omega

theorem ArgumentText.scan_behind {mark text : String} (argument : ArgumentText mark text) (pos : Nat)
    (ys : List Char) (stop : EndsType ys) :
    scanFrom pos (text.toList ++ ys) = (scan text).map (shifted pos) ++ scanFrom (pos + text.toList.length) ys := by
  rw [scan_ends pos text.toList ys (ends_of_types 0 text.toList ys argument.noTick argument.typed stop), scan_at]

theorem ArgumentText.read {mark text : String} (argument : ArgumentText mark text) (plain : mark ≠ ".") (pos : Nat)
    (stop : Token) (more : List Token) (kind : stop.kind = .punct) (value : stop.value = mark) :
    reads .type ((scan text).map (shifted pos) ++ stop :: more) = some ((), stop :: more) := by
  obtain ⟨first, others, firstKind, firstValue, read⟩ := argument.stopped
  have firm : Firm first := by
    refine ⟨by rw [firstKind]; decide, fun dot => plain ?_⟩
    rw [← firstValue, symbol_value "." first dot]
  refine type_stopped (scan text) _ first stop others more (bare_shifted pos (scan text)).symm ?_ firm read
  simp only [bare, kind, value, firstKind, firstValue]

theorem text_of_shifted (front text behind : List Char) (run : List Token) (fits : ∀ t ∈ run, t.stop ≤ text.length) :
    textOf (front ++ (text ++ behind)) (run.map (shifted front.length)) = textOf text run := by
  unfold textOf
  rw [List.head?_map, List.getLast?_map]
  cases run.head? with
  | none => rfl
  | some first =>
      cases ending : run.getLast? with
      | none => rfl
      | some last =>
          have bound := fits last (List.mem_of_getLast? ending)
          dsimp only [Option.map_some, shifted]
          rw [Nat.add_comm last.stop, Nat.add_comm first.start, List.take_length_add_append, List.drop_length_add_append,
            List.take_append_of_le_length bound]

theorem ArgumentText.text_at {mark text : String} (argument : ArgumentText mark text) (front behind : List Char) :
    textOf (front ++ (text.toList ++ behind)) ((scan text).map (shifted front.length)) = text := by
  rw [text_of_shifted front text.toList behind (scan text), argument.spans]
  intro t present
  have bounds := scan_bounds 0 text.toList t present
  omega

theorem type_arguments_stop (xs : List Token) (stop : Token) (more : List Token)
    (type : reads .type (xs ++ stop :: more) = some ((), stop :: more)) :
    reads .typeArguments (xs ++ stop :: more) =
      if stop.isSymbol "," then (reads .typeArguments more).map fun r => (xs :: r.1, r.2)
      else if stop.isSymbol ">" then some ([xs], more) else none := by
  rw [reads_type_arguments, typeArgumentsScript, Script.run_call, type, Option.bind_some, Script.run_here, taken_from,
    Script.run_if_take]
  split
  · rw [Script.run_call]
    cases reads .typeArguments more with
    | none => rfl
    | some r => rfl
  · rfl

theorem type_arguments_cases (ts : List Token) (arguments : List (List Token)) (rest : List Token)
    (read : reads .typeArguments ts = some (arguments, rest)) :
    ∃ xs stop more, ts = xs ++ stop :: more ∧ xs ≠ [] ∧
      reads .type (xs ++ stop :: more) = some ((), stop :: more) ∧
      ((stop.value = "," ∧ ∃ others, arguments = xs :: others ∧ reads .typeArguments more = some (others, rest)) ∨
        (stop.value = ">" ∧ arguments = [xs])) := by
  have run := read
  rw [reads_type_arguments, typeArgumentsScript, Script.run_call] at run
  obtain ⟨⟨_, left⟩, type, after⟩ := Option.bind_eq_some_iff.mp run
  obtain ⟨xs, rfl⟩ := reads_suffix .type ts () left type
  have size := length_reads .type _ () left type
  rw [List.length_append] at size
  have nonempty : xs ≠ [] := by
    rintro rfl
    simp only [List.length_nil, Production.least] at size
    omega
  cases left with
  | nil => cases after
  | cons stop more =>
      refine ⟨xs, stop, more, rfl, nonempty, type, ?_⟩
      rw [type_arguments_stop xs stop more type] at read
      split at read
      · rename_i comma
        obtain ⟨⟨others, _⟩, found, same⟩ := Option.map_eq_some_iff.mp read
        cases same
        exact .inl ⟨symbol_value "," stop comma, others, rfl, found⟩
      split at read
      · rename_i closing
        cases read
        exact .inr ⟨symbol_value ">" stop closing, rfl⟩
      · cases read

theorem arguments_read (arguments : List String) (texts : ArgumentTexts arguments) (front tail behind : List Char) :
    ∃ xs runs, scanFrom front.length ((argumentsText arguments).toList ++ tail) =
        xs ++ scanFrom (front.length + (argumentsText arguments).toList.length) tail ∧
      (∀ more, reads .typeArguments (xs ++ more) = some (runs, more)) ∧
      runs.map (textOf (front ++ ((argumentsText arguments).toList ++ behind))) = arguments := by
  induction texts generalizing front with
  | last text argument =>
      have signs : (argumentsText [text]).toList = text.toList ++ ['>'] := by
        rw [argumentsText, String.intercalate_singleton, String.toList_append]
        rfl
      obtain ⟨closing, kind, value, scanned⟩ := scan_sign (front.length + text.toList.length) '>' tail (by decide)
      have read (more : List Token) := argument.read (by decide) front.length closing more kind value
      refine ⟨(scan text).map (shifted front.length) ++ [closing], [(scan text).map (shifted front.length)], ?_,
        fun more => ?_, ?_⟩
      · rw [signs, List.append_assoc, List.singleton_append,
          argument.scan_behind _ _ (by rintro c ⟨⟩; exact .inr rfl), scanned, List.length_append, List.append_assoc,
          ← Nat.add_assoc]
        rfl
      · rw [List.append_assoc, List.singleton_append, type_arguments_stop _ _ more (read more),
          if_neg (by simp [isSymbol, value]), if_pos (by simp [isSymbol, kind, value])]
      · rw [signs, List.append_assoc, List.map_singleton, argument.text_at front (['>'] ++ behind)]
  | more text others argument later ih =>
      have signs : (argumentsText (text :: others)).toList =
          text.toList ++ ',' :: ' ' :: (argumentsText others).toList := by
        rw [arguments_text_cons text others later, String.toList_append, String.toList_append, List.append_assoc]
        rfl
      obtain ⟨comma, kind, value, scanned⟩ :=
        scan_sign (front.length + text.toList.length) ',' (' ' :: ((argumentsText others).toList ++ tail)) (by decide)
      have read (more : List Token) := argument.read (by decide) front.length comma more kind value
      obtain ⟨xs, runs, behindScanned, behindRead, behindTexts⟩ := ih (front ++ (text.toList ++ [',', ' ']))
      have place : front.length + text.toList.length + 1 + 1 = (front ++ (text.toList ++ [',', ' '])).length := by
        simp only [List.length_append, List.length_cons, List.length_nil]
        omega
      refine ⟨(scan text).map (shifted front.length) ++ comma :: xs,
        (scan text).map (shifted front.length) :: runs, ?_, fun more => ?_, ?_⟩
      · rw [signs, List.append_assoc, List.cons_append, List.cons_append,
          argument.scan_behind _ _ (by rintro c ⟨⟩; exact .inl rfl), scanned, scan_space, place, behindScanned,
          List.append_assoc, List.cons_append]
        simp only [List.length_append, List.length_cons, List.length_nil]
        congr 4
        omega
      · rw [List.append_assoc, List.cons_append, type_arguments_stop _ _ _ (read _),
          if_pos (by simp [isSymbol, kind, value]), behindRead more]
        rfl
      · rw [signs, List.append_assoc, List.map_cons, argument.text_at]
        simpa using behindTexts

theorem argument_text (source : List Char) (noTick : '\x60' ∉ source) (before xs more : List Token) (stop : Token)
    (whole : scanFrom 0 source = before ++ xs ++ stop :: more) (nonempty : xs ≠ []) (kind : stop.kind = .punct)
    (plain : stop.value ≠ ".") (read : reads .type (xs ++ stop :: more) = some ((), stop :: more)) :
    ArgumentText stop.value (textOf source xs) := by
  obtain ⟨first, head⟩ : ∃ first, xs.head? = some first := ⟨_, List.head?_eq_some_head nonempty⟩
  have ending := List.getLast?_eq_some_getLast nonempty
  have tokens := scan_text_of source before xs (stop :: more) first whole head
  have characters := text_of_eq source first _ xs head ending
  refine ⟨fun tick => noTick ?_, fun t present => ?_, ?_, stop, more, kind, rfl, ?_⟩
  · rw [characters] at tick
    exact List.mem_of_mem_take (List.mem_of_mem_drop tick)
  · obtain ⟨taken, same, settled⟩ := reads_settles .type _ rfl () _ read
    obtain rfl := List.append_cancel_right same
    exact settled.typed (shifted first.start t) (tokens ▸ List.mem_map_of_mem present)
  · rw [text_of_inner source xs first _ _ head ending (text_of_stops source xs first _ head ending), tokens]
  · have same := (congrArg (List.map bare) tokens).symm.trans (bare_shifted first.start _)
    have firm : Firm stop := ⟨by rw [kind]; decide, fun dot => plain (symbol_value "." stop dot)⟩
    exact type_stopped xs _ stop stop more more same rfl firm read

theorem arguments_text (source : List Char) (noTick : '\x60' ∉ source) (before ts rest : List Token)
    (whole : scanFrom 0 source = before ++ ts) (arguments : List (List Token))
    (read : reads .typeArguments ts = some (arguments, rest)) : ArgumentTexts (arguments.map (textOf source)) := by
  induction size : ts.length using Nat.strongRecOn generalizing before ts arguments with
  | ind n shorter =>
      obtain ⟨xs, stop, more, rfl, nonempty, type, onward⟩ := type_arguments_cases ts arguments rest read
      have present : stop ∈ scanFrom 0 source := by simp [whole]
      rw [← List.append_assoc] at whole
      obtain ⟨comma, others, rfl, later⟩ | ⟨closing, rfl⟩ := onward
      · have kind := scanned_mark 0 source ',' (by decide) stop present comma
        have text := argument_text source noTick before xs more stop whole nonempty kind (by simp [comma]) type
        rw [comma] at text
        have fewer : more.length < n := by
          rw [← size, List.length_append, List.length_cons]
          omega
        exact .more _ _ text (shorter _ fewer (before ++ xs ++ [stop]) more (by simp [whole]) others later rfl)
      · have kind := scanned_mark 0 source '>' (by decide) stop present closing
        have text := argument_text source noTick before xs more stop whole nonempty kind (by simp [closing]) type
        rw [closing] at text
        exact .last _ text

end ScreenDispatch.Expr
