import ScreenDispatch.Proofs.RejectedArguments
import ScreenDispatch.Proofs.SchemaReading
import ScreenDispatch.Proofs.TokenRuns
import ScreenDispatch.Proofs.TypeText

/-!
Arguments that are laid out in another way. White space between tokens decides neither whether an argument can be read
nor what it says: two texts of the same tokens give the same shape of a screen, and types that differ in the white space
inside their generic arguments alone.
-/
set_option autoImplicit false

namespace ScreenDispatch.Expr

open Text Token

def lexemes (text : String) : List (TokenKind × String) := (scan text).map fun t => (t.kind, t.value)

theorem bare_of_lexemes (a b : String) (same : lexemes a = lexemes b) : (scan a).map bare = (scan b).map bare := by
  have rebuilt := congrArg (List.map fun p : TokenKind × String => (⟨p.1, p.2, 0, 0⟩ : Token)) same
  rwa [lexemes, lexemes, List.map_map, List.map_map] at rebuilt

theorem lexemes_text_of (source : String) (run : List Token) (inside : run <:+: scan source) :
    lexemes (textOf source.toList run) = run.map fun t => (t.kind, t.value) := by
  cases run with
  | nil =>
      rw [lexemes, scan, show (textOf source.toList []).toList = [] from rfl, scanFrom]
  | cons first rest =>
      obtain ⟨before, after, whole⟩ := inside
      have tokens := scan_text_of source.toList before (first :: rest) after first whole.symm rfl
      rw [← congrArg (List.map fun t : Token => (t.kind, t.value)) tokens, List.map_map]
      rfl

theorem read_relaid (a b : String) (same : lexemes a = lexemes b) (e : Expr String) (accepted : read a = .ok e) :
    ∃ other, read b = .ok other ∧ e.map lexemes = other.map lexemes := by
  obtain ⟨tree, parsed, rfl⟩ := (read_ok_iff a e).mp accepted
  have moved := expression_moved bare_keeps (scan a)
  rw [bare_of_lexemes a b same, expression_moved bare_keeps, parsed] at moved
  obtain ⟨⟨otherTree, rest⟩, otherParsed, agree⟩ := Option.map_eq_some_iff.mp moved
  obtain ⟨trees, nothing⟩ := Prod.mk.inj agree
  obtain rfl := List.map_eq_nil_iff.mp nothing
  refine ⟨_, (read_ok_iff b _).mpr ⟨otherTree, otherParsed, rfl⟩, ?_⟩
  -- On both sides a run of tokens is what its text is read to.
  have told (text : String) (tree : Tree) (parsed : reads .expression (scan text) = some (tree, [])) :
      (tree.map (textOf text.toList)).map lexemes =
        (Tree.move bare tree).map (List.map fun t => (t.kind, t.value)) := by
    rw [map_map, map_map]
    refine map_of_parts _ _ tree fun run held => ?_
    have inside := expression_runs_inside (scan text) tree parsed run held
    rw [Function.comp_apply, lexemes_text_of text run inside, Function.comp_apply, List.map_map]
    rfl
  rw [told a tree parsed, told b otherTree otherParsed, trees]

theorem blank_lexeme (c : Char) (rest : List Char) (found : (lexeme c rest).1 = none) :
    lexeme c rest = (none, (rest.takeWhile isBlank).length) := by
  rw [lexeme, if_pos (blank_of_lexeme c rest found)]

theorem blank_of_no_token (pos : Nat) (cs : List Char) (nothing : scanFrom pos cs = []) : ∀ c ∈ cs, isBlank c := by
  induction pos, cs using scan_induction with
  | empty pos => nofun
  | blank pos c rest blank ih =>
      rw [scan_from_blank _ _ _ blank] at nothing
      have later := ih nothing
      rw [blank_lexeme c rest blank] at later
      refine List.forall_mem_cons.mpr ⟨blank_of_lexeme c rest blank, fun d present => ?_⟩
      rw [← List.take_append_drop (rest.takeWhile isBlank).length rest, take_while_taken] at present
      obtain early | late := List.mem_append.mp present
      · exact List.mem_takeWhile_imp early
      · exact later d late
  | token pos c rest kind found ih =>
      rw [scan_from_token _ _ _ kind found] at nothing
      cases nothing

theorem lexeme_kept (c : Char) (rest front back : List Char)
    (split : rest.drop (lexeme c rest).2 = front ++ back) :
    lexeme c (rest.take (lexeme c rest).2 ++ front) = lexeme c rest := by
  have length := lexeme_length c rest
  have whole : rest.take (lexeme c rest).2 ++ front ++ back = rest := by
    rw [List.append_assoc, ← split, List.take_append_drop]
  refine (lexeme_cut c _ back ?_).trans (congrArg _ whole)
  rw [whole, List.length_append, List.length_take]
  omega

theorem scan_last (pos : Nat) (cs : List Char) (ts : List Token) (t : Token) (whole : scanFrom pos cs = ts ++ [t]) :
    ∃ front blanks, cs = front ++ (t.value.toList ++ blanks) ∧ scanFrom pos front = ts ∧ ∀ c ∈ blanks, isBlank c := by
  induction pos, cs using scan_induction generalizing ts with
  | empty pos =>
      rw [scanFrom] at whole
      cases (List.append_eq_nil_iff.mp whole.symm).2
  | blank pos c rest blank ih =>
      rw [scan_from_blank _ _ _ blank] at whole
      obtain ⟨front, blanks, split, scanned, all⟩ := ih ts whole
      have kept := lexeme_kept c rest front _ split
      refine ⟨c :: (rest.take (lexeme c rest).2 ++ front), blanks, ?_, ?_, all⟩
      · rw [List.cons_append, List.append_assoc, ← split, List.take_append_drop]
      · rw [scan_from_blank _ _ _ (by rw [kept]; exact blank), kept,
          List.drop_left' (List.length_take_of_le (lexeme_length c rest)), scanned]
  | token pos c rest kind found ih =>
      rw [scan_from_token _ _ _ kind found] at whole
      cases ts with
      | nil =>
          obtain ⟨rfl, nothing⟩ := List.cons.inj whole
          refine ⟨[], rest.drop (lexeme c rest).2, ?_, by rw [scanFrom], blank_of_no_token _ _ nothing⟩
          simp
      | cons u more =>
          obtain ⟨rfl, others⟩ := List.cons.inj whole
          obtain ⟨front, blanks, split, scanned, all⟩ := ih more others
          have kept := lexeme_kept c rest front _ split
          refine ⟨c :: (rest.take (lexeme c rest).2 ++ front), blanks, ?_, ?_, all⟩
          · rw [List.cons_append, List.append_assoc, ← split, List.take_append_drop]
          · have short := List.length_take_of_le (lexeme_length c rest)
            rw [scan_from_token _ _ _ kind (by rw [kept]; exact found), kept, List.take_left' short,
              List.drop_left' short, scanned]

theorem solid_prefix (cs : List Char) : ∃ front blanks, cs = front ++ blanks ∧ Solid front ∧ ∀ c ∈ blanks, isBlank c := by
  induction cs using List.reverseRecOn with
  | nil => exact ⟨[], [], rfl, nofun, nofun⟩
  | append_singleton cs c ih =>
      cases blank : isBlank c with
      | false =>
          refine ⟨cs ++ [c], [], by simp, fun d last => ?_, nofun⟩
          rw [List.getLast?_concat] at last
          exact Option.some.inj last ▸ blank
      | true =>
          obtain ⟨front, blanks, rfl, solid, all⟩ := ih
          refine ⟨front, blanks ++ [c], by simp, solid, ?_⟩
          exact List.forall_mem_append.mpr ⟨all, by simpa using blank⟩

theorem self_suffixed_of_tokens (text : List Char) (solid : Solid text) (before : List Token) (nonempty : before ≠ [])
    (dot name : Token) (self : SelfTokens dot name) (whole : scanFrom 0 text = before ++ [dot, name]) :
    ∃ base, SelfSuffixed text base ∧ scanFrom 0 base = before := by
  obtain ⟨front, line, rfl, scanned, blankLine⟩ := scan_last 0 text (before ++ [dot]) name (by simp [whole])
  obtain ⟨inner, space, rfl, innerScanned, blankSpace⟩ := scan_last 0 front before dot scanned
  obtain ⟨base, gap, rfl, baseSolid, blankGap⟩ := solid_prefix inner
  have ending : line = [] := by
    by_contra behind
    have last := List.getLast?_eq_some_getLast behind
    have blank := blankLine _ (List.mem_of_getLast? last)
    rw [solid _ (by rw [← List.append_assoc, List.getLast?_append, last]; rfl)] at blank
    cases blank
  have suffixed : SelfSuffixed (base ++ gap ++ (dot.value.toList ++ space) ++ (name.value.toList ++ line)) base := by
    refine ⟨fun empty => nonempty ?_, baseSolid, gap, space, line, ?_, blankGap, blankSpace, .inl ending⟩
    · have nothing := scan_blanks 0 gap [] blankGap nofun
      rw [List.append_nil, scanFrom] at nothing
      rw [← innerScanned, empty, List.nil_append, nothing]
    · rw [self.dotValue, self.nameValue]
      simp
  refine ⟨base, suffixed, ?_⟩
  obtain ⟨_, _, _, again⟩ := scan_self_suffixed _ base suffixed
  exact (List.append_inj' (again.symm.trans whole) rfl).1

theorem self_base_relaid (a b base : String) (solid : Solid b.toList) (same : lexemes a = lexemes b)
    (suffixed : SelfSuffixed a.toList base.toList) :
    ∃ other : String, SelfSuffixed b.toList other.toList ∧ lexemes base = lexemes other := by
  obtain ⟨dot, name, self, tokens⟩ := scan_self_suffixed _ _ suffixed
  have nonempty : scan base ≠ [] := fun nothing => by
    have last := List.getLast?_eq_some_getLast suffixed.nonempty
    have blank := blank_of_no_token 0 _ nothing _ (List.mem_of_getLast? last)
    rw [suffixed.solid _ last] at blank
    cases blank
  have content : (scan b).map (fun t => (t.kind, t.value)) =
      lexemes base ++ [(dot.kind, dot.value), (name.kind, name.value)] := by
    change lexemes b = _
    rw [← same, lexemes, scan, tokens, List.map_append]
    rfl
  obtain ⟨before, behind, whole, beforeSame, behindSame⟩ := List.map_eq_append_iff.mp content
  obtain ⟨otherDot, rest, rfl, dotSame, restSame⟩ := List.map_eq_cons_iff.mp behindSame
  obtain ⟨otherName, nothing, rfl, nameSame, nothingSame⟩ := List.map_eq_cons_iff.mp restSame
  obtain rfl := List.map_eq_nil_iff.mp nothingSame
  have otherSelf : SelfTokens otherDot otherName := by
    obtain ⟨dotKind, dotValue⟩ := Prod.mk.inj dotSame
    obtain ⟨nameKind, nameValue⟩ := Prod.mk.inj nameSame
    exact ⟨dotKind.trans self.dotKind, dotValue.trans self.dotValue, nameKind.trans self.nameKind,
      nameValue.trans self.nameValue⟩
  have beforeFilled : before ≠ [] := by
    rintro rfl
    exact nonempty (List.map_eq_nil_iff.mp beforeSame.symm)
  obtain ⟨other, otherSuffixed, scanned⟩ :=
    self_suffixed_of_tokens b.toList solid before beforeFilled otherDot otherName otherSelf whole
  refine ⟨String.ofList other, by rwa [String.toList_ofList], ?_⟩
  rw [← beforeSame, lexemes, scan, String.toList_ofList, scanned]

theorem argument_relaid (a b : String) (solid : Solid a.toList) (otherSolid : Solid b.toList)
    (same : lexemes a = lexemes b) : (ofArgument a).map lexemes = (ofArgument b).map lexemes := by
  cases accepted : read a with
  | ok e =>
      obtain ⟨other, otherAccepted, agree⟩ := read_relaid a b same e accepted
      rw [ofArgument, accepted, ofArgument, otherAccepted]
      exact agree
  | error error =>
      have otherRejected : ∃ error, read b = .error error := by
        refine error_of_not_ok _ ?_
        rintro ⟨other, otherAccepted⟩
        obtain ⟨e, read, -⟩ := read_relaid b a same.symm other otherAccepted
        rw [accepted] at read
        cases read
      -- What stands before a `.self` at the end is laid out in another way as well, and is shorter.
      by_cases ends : ∃ base : String, SelfSuffixed a.toList base.toList
      · obtain ⟨base, suffixed⟩ := ends
        obtain ⟨other, otherSuffixed, relaid⟩ := self_base_relaid a b base otherSolid same suffixed
        have shorter := length_self_base ((self_base_iff _ _).mpr suffixed)
        rw [of_argument_self a base ⟨error, accepted⟩ suffixed, of_argument_self b other otherRejected otherSuffixed,
          Expr.map, Expr.map, same, argument_relaid base other suffixed.solid otherSuffixed.solid relaid]
      · have otherEnds (base : String) : ¬ SelfSuffixed b.toList base.toList := fun suffixed => by
          obtain ⟨other, otherSuffixed, -⟩ := self_base_relaid b a base solid same.symm suffixed
          exact ends ⟨_, otherSuffixed⟩
        rw [of_argument_unparsed a ⟨error, accepted⟩ fun base suffixed => ends ⟨base, suffixed⟩,
          of_argument_unparsed b otherRejected otherEnds, Expr.map, Expr.map, same]
termination_by a.toList.length

end ScreenDispatch.Expr
