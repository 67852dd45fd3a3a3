import ScreenDispatch.Proofs.MappingOrder
import ScreenDispatch.Proofs.Pieces
import ScreenDispatch.Proofs.Rereading

/-!
Dictionaries by their layout. Between brackets stand keys and values, set apart by colons and commas
outside inner brackets. Such a text is always a dictionary with these keys and values, whatever they are.
-/
set_option autoImplicit false

namespace ScreenDispatch.Expr

open Token Script

structure Entry where
  key : List Token
  value : List Token

structure Entry.Proper (entry : Entry) : Prop where
  key : Piece [",", ":"] entry.key
  value : Piece [","] entry.value

inductive EntriesTail : List Entry → List Token → Prop where
  | close (closing : Token) (bracket : closing.isPunctuation "]") : EntriesTail [] [closing]
  | commaClose (comma closing : Token) (separator : comma.isPunctuation ",")
      (bracket : closing.isPunctuation "]") : EntriesTail [] [comma, closing]
  | next (comma colon : Token) (separator : comma.isPunctuation ",") (divider : colon.isPunctuation ":")
      (entry : Entry) (proper : entry.Proper) (others : List Entry) (tail : List Token)
      (more : EntriesTail others tail) :
      EntriesTail (entry :: others) (comma :: entry.key ++ colon :: (entry.value ++ tail))

inductive DictionaryLayout : List Entry → List Token → Prop where
  | mk (opening colon : Token) (bracket : opening.isPunctuation "[") (divider : colon.isPunctuation ":")
      (entry : Entry) (proper : entry.Proper) (others : List Entry) (tail : List Token)
      (more : EntriesTail others tail) :
      DictionaryLayout (entry :: others) (opening :: entry.key ++ colon :: (entry.value ++ tail))

def Entry.trees (entry : Entry) : Tree × Tree := (standing entry.key, standing entry.value)

def Entry.labels? (entry : Entry) : Option (String × String) :=
  match label? entry.key, label? entry.value with
  | some key, some value => some (key, value)
  | _, _ => none

theorem symbol_of_punctuation (symbol : String) (t : Token) (punct : t.isPunctuation symbol) :
    t.isSymbol symbol := by
  obtain ⟨kind, value⟩ := (punctuation_iff symbol t).mp punct
  simp [isSymbol, kind, value]

theorem head_of_append {piece : List Token} (nonempty : piece ≠ []) (more : List Token) :
    ∃ t rest, piece ++ more = t :: rest ∧ [t] <+: piece := by
  cases piece with
  | nil => exact absurd rfl nonempty
  | cons t others => exact ⟨t, others ++ more, rfl, others, rfl⟩

theorem head_no_symbol (symbol : String) (stops : List String) (piece : List Token) (faithful : AllFaithful piece)
    (unstopped : Unstopped stops piece) (mark : symbol ∈ stops) (among : symbol ∈ [":", ",", "]"])
    (t : Token) (head : [t] <+: piece) : ¬ t.isSymbol symbol := by
  intro found
  obtain ⟨others, rfl⟩ := head
  have punct := faithful_symbol t symbol (faithful t (by simp)) found (by grind)
  obtain ⟨kind, value⟩ := (punctuation_iff symbol t).mp punct
  exact unstopped [] t others rfl rfl kind (value ▸ mark)

theorem tail_barrier_or_next {entries : List Entry} {tail : List Token} (layout : EntriesTail entries tail) :
    Barrier tail ∨ ∃ comma colon key far, comma.isPunctuation "," ∧ colon.isPunctuation ":" ∧
      Piece [",", ":"] key ∧ tail = comma :: key ++ colon :: far := by
  have closer (closing : Token) (bracket : closing.isPunctuation "]") : closes closing := by
    obtain ⟨kind, value⟩ := (punctuation_iff _ _).mp bracket
    rw [closes_iff, value]
    exact ⟨kind, by decide⟩
  cases layout with
  | close closing bracket => exact .inl ⟨closing, [], rfl, .inl (closer closing bracket)⟩
  | commaClose comma closing separator bracket =>
      exact .inl ⟨comma, [closing], rfl, .inr (.inr ⟨separator, closing, [], rfl, closer closing bracket⟩)⟩
  | next comma colon separator divider entry proper others tail more =>
      exact .inr ⟨comma, colon, entry.key, entry.value ++ tail, separator, divider, proper.key, rfl⟩

theorem tail_head {entries : List Entry} {tail : List Token} (layout : EntriesTail entries tail) :
    ∃ q more, tail = q :: more ∧ q.kind = .punct ∧ q.value ∈ [",", "]"] := by
  cases layout with
  | close closing bracket =>
      obtain ⟨kind, value⟩ := (punctuation_iff _ _).mp bracket
      exact ⟨closing, [], rfl, kind, by simp [value]⟩
  | commaClose comma closing separator bracket =>
      obtain ⟨kind, value⟩ := (punctuation_iff _ _).mp separator
      exact ⟨comma, [closing], rfl, kind, by simp [value]⟩
  | next comma colon separator divider entry proper others tail more =>
      obtain ⟨kind, value⟩ := (punctuation_iff _ _).mp separator
      exact ⟨comma, _, rfl, kind, by simp [value]⟩

theorem Piece.closing {stops : List String} {piece : List Token} (proper : Piece stops piece)
    (faithful : AllFaithful piece) : Closing [] piece :=
  ⟨faithful, proper.nested⟩

theorem element_key (stops : List String) (marks : ∀ symbol ∈ stops, symbol ∈ [":", ",", "]"])
    (colons : ":" ∈ stops) (key : List Token) (proper : Piece [",", ":"] key) (faithful : AllFaithful key)
    (colon : Token) (divider : colon.isPunctuation ":") (more : List Token) :
    outcome (element stops (key ++ colon :: more)) = some (standing key, colon :: more) := by
  have unstopped : Unstopped stops key := proper.unstopped fun symbol stop => by grind
  obtain ⟨punct, value⟩ := (punctuation_iff _ _).mp divider
  apply element_piece stops marks key proper.nonempty (proper.closing faithful) unstopped colon more punct
    (value ▸ colons)
  exact confined_barrier stops marks key _ (proper.closing faithful) unstopped
    ⟨colon, more, rfl, .inr (.inl divider)⟩

theorem element_value (value : List Token) (proper : Piece [","] value) (entries : List Entry) (tail : List Token)
    (layout : EntriesTail entries tail) (faithful : AllFaithful (value ++ tail)) :
    outcome (element [",", "]"] (value ++ tail)) = some (standing value, tail) := by
  have closing : Closing [] value :=
    proper.closing fun t inside => faithful t (List.mem_append_left tail inside)
  have unstopped : Unstopped [",", "]"] value := proper.unstopped (by simp)
  obtain ⟨q, more, rfl, punct, stop⟩ := tail_head layout
  -- Behind a value the attempt could run on into the next key, but not across its colon.
  apply element_piece [",", "]"] (by simp) value proper.nonempty closing unstopped q more punct stop
  obtain barrier | ⟨comma, colon, key, far, separator, divider, next, same⟩ := tail_barrier_or_next layout
  · exact confined_barrier _ (by simp) value _ closing unstopped barrier
  · rw [same] at faithful ⊢
    have plain := advance_of_value [] comma (by rw [((punctuation_iff _ _).mp separator).2]; decide)
    have front : Closing [] (value ++ comma :: key) := by
      refine ⟨fun t inside => faithful t ?_, ?_⟩
      · rw [← List.append_assoc]
        exact List.mem_append_left _ inside
      · exact (nested_append value _ proper.nested).mpr (closes_cons plain next.nested)
    exact confined_comma value key far comma separator front proper.nested unstopped
      (next.unstopped (by simp)) colon divider

theorem entries_laid_out (others : List Entry) (tail : List Token) (layout : EntriesTail others tail)
    (faithful : AllFaithful tail) : reads .entries tail = some (others.map Entry.trees, []) := by
  induction layout with
  | close closing bracket =>
      have value := ((punctuation_iff _ _).mp bracket).2
      rw [reads_eq]
      change entriesScript.run _ _ = _
      rw [entriesScript, run_if_take, if_neg (by simp [isSymbol, value]), Script.expect, run_if_take,
        if_pos (symbol_of_punctuation _ _ bracket), run_done]
      rfl
  | commaClose comma closing separator bracket =>
      rw [reads_eq]
      change entriesScript.run _ _ = _
      rw [entriesScript, run_if_take, if_pos (symbol_of_punctuation _ _ separator), run_if_take,
        if_pos (symbol_of_punctuation _ _ bracket), run_done]
      rfl
  | next comma colon separator divider entry proper others tail more ih =>
      have keyFaithful : AllFaithful entry.key := fun t inside => faithful t (by simp [inside])
      have rest : AllFaithful (entry.value ++ tail) := fun t inside => faithful t (by
        rw [List.mem_append] at inside
        simp [inside])
      have unstopped : Unstopped ["]"] entry.key := proper.key.unstopped (by simp)
      obtain ⟨t, behind, whole, head⟩ := head_of_append proper.key.nonempty (colon :: (entry.value ++ tail))
      have noBracket := head_no_symbol "]" ["]"] entry.key keyFaithful unstopped (by simp) (by simp) t head
      have key := element_key [":"] (by simp) (by simp) entry.key proper.key keyFaithful colon divider
        (entry.value ++ tail)
      have value := element_value entry.value proper.value others tail more rest
      rw [reads_eq]
      change entriesScript.run _ _ = _
      rw [entriesScript, List.cons_append, run_if_take, if_pos (symbol_of_punctuation _ _ separator), whole,
        run_if_take, if_neg noBracket, ← whole, run_element, key, Option.bind_some, Script.expect, run_if_take,
        if_pos (symbol_of_punctuation _ _ divider), run_element, value, Option.bind_some, run_call,
        ih fun u inside => rest u (List.mem_append_right _ inside)]
      rfl

theorem collection_laid_out (opening colon : Token) (divider : colon.isPunctuation ":") (entry : Entry)
    (proper : entry.Proper) (others : List Entry) (tail : List Token) (layout : EntriesTail others tail)
    (faithful : AllFaithful (entry.key ++ colon :: (entry.value ++ tail))) :
    reads (.collection [opening]) (entry.key ++ colon :: (entry.value ++ tail)) =
      some (.dictionary (opening :: entry.key ++ colon :: (entry.value ++ tail))
        ((entry :: others).map Entry.trees), []) := by
  have keyFaithful : AllFaithful entry.key := fun t inside => faithful t (by simp [inside])
  have rest : AllFaithful (entry.value ++ tail) := fun t inside => faithful t (by
    rw [List.mem_append] at inside
    simp [inside])
  have unstopped : Unstopped [":", "]"] entry.key := proper.key.unstopped (by simp)
  obtain ⟨t, behind, whole, head⟩ := head_of_append proper.key.nonempty (colon :: (entry.value ++ tail))
  have noColon := head_no_symbol ":" _ entry.key keyFaithful unstopped (by simp) (by simp) t head
  have noBracket := head_no_symbol "]" _ entry.key keyFaithful unstopped (by simp) (by simp) t head
  have key := element_key [":", ",", "]"] (by simp) (by simp) entry.key proper.key keyFaithful colon divider
    (entry.value ++ tail)
  have value := element_value entry.value proper.value others tail layout rest
  have entries := entries_laid_out others tail layout fun u inside => rest u (List.mem_append_right _ inside)
  rw [reads_eq]
  change (collectionScript [opening]).run _ _ = _
  rw [collectionScript, whole, run_if_take, if_neg noColon, run_if_take, if_neg noBracket, ← whole, run_element,
    key, Option.bind_some, run_if_take, if_pos (symbol_of_punctuation _ _ divider), run_element, value,
    Option.bind_some, run_call, entries, Option.bind_some, run_here, taken_nil, run_done]
  rfl

theorem expression_laid_out (entries : List Entry) (ts : List Token) (layout : DictionaryLayout entries ts)
    (faithful : AllFaithful ts) :
    reads .expression ts = some (.dictionary ts (entries.map Entry.trees), []) := by
  obtain ⟨opening, colon, bracket, divider, entry, proper, others, tail, more⟩ := layout
  have primary : reads .primary (opening :: entry.key ++ colon :: (entry.value ++ tail)) =
      some (.dictionary (opening :: entry.key ++ colon :: (entry.value ++ tail))
        ((entry :: others).map Entry.trees), []) := by
    obtain ⟨kind, value⟩ := (punctuation_iff _ _).mp bracket
    have collection := collection_laid_out opening colon divider entry proper others tail more fun t inside =>
      faithful t (List.mem_cons_of_mem opening inside)
    have dot : ¬ opening.isPunctuation "." := by simp [isPunctuation, value]
    rw [reads_eq]
    change primaryScript.run _ _ = _
    rw [primaryScript, List.cons_append, run_take, kind]
    dsimp only
    rw [symbolFirst, if_neg (by simp [kind]), if_neg dot, if_pos bracket, run_call, collection]
    rfl
  rw [expression_from_primary _ _ _ primary, suffixes_nil]

def Entry.Among (ts : List Token) (entry : Entry) : Prop :=
  ∀ piece ∈ [entry.key, entry.value], piece ≠ [] ∧ Nested piece ∧ piece <:+: ts

theorem Entry.Proper.among {entry : Entry} (proper : entry.Proper) {ts tail : List Token} (before : List Token)
    (colon : Token) (whole : before ++ entry.key ++ colon :: (entry.value ++ tail) = ts) : entry.Among ts := by
  intro piece present
  obtain rfl | last := List.mem_cons.mp present
  · exact ⟨proper.key.nonempty, proper.key.nested, before, colon :: (entry.value ++ tail), whole⟩
  · cases List.mem_singleton.mp last
    refine ⟨proper.value.nonempty, proper.value.nested, before ++ entry.key ++ [colon], tail, ?_⟩
    rw [← whole]
    simp

theorem Entry.Among.mono {entry : Entry} {xs ys : List Token} (among : entry.Among xs) (inside : xs <:+ ys) :
    entry.Among ys := by
  intro piece present
  obtain ⟨nonempty, nested, part⟩ := among piece present
  exact ⟨nonempty, nested, part.trans inside.isInfix⟩

theorem tail_among {entries : List Entry} {tail : List Token} (layout : EntriesTail entries tail) :
    ∀ entry ∈ entries, entry.Among tail := by
  induction layout with
  | close | commaClose => nofun
  | next comma colon separator divider entry proper others tail more ih =>
      intro other present
      obtain rfl | later := List.mem_cons.mp present
      · exact proper.among [comma] colon rfl
      · exact (ih other later).mono ⟨comma :: entry.key ++ colon :: entry.value, by simp⟩

theorem layout_among {entries : List Entry} {ts : List Token} (layout : DictionaryLayout entries ts) :
    ∀ entry ∈ entries, entry.Among ts := by
  obtain ⟨opening, colon, bracket, divider, entry, proper, others, tail, more⟩ := layout
  intro other present
  obtain rfl | later := List.mem_cons.mp present
  · exact proper.among [opening] colon rfl
  · exact (tail_among more other later).mono ⟨opening :: entry.key ++ colon :: entry.value, by simp⟩

def alone (text : String) : Expr String :=
  match read text with
  | .ok e => e
  | .error _ => .unparsed text

theorem standing_alone (source : String) (piece : List Token) (nonempty : piece ≠ [])
    (part : piece <:+: scan source) :
    (standing piece).map (textOf source.toList) = alone (textOf source.toList piece) := by
  obtain ⟨before, after, whole⟩ := part
  -- The text of the piece has the tokens of the piece, so both are read alike.
  by_cases accepted : ∃ e, reads .expression piece = some (e, [])
  · obtain ⟨e, parsed⟩ := accepted
    rw [standing_read parsed, alone, read_piece source before piece after nonempty whole.symm e parsed]
  · have rejected : ∀ e, reads .expression piece ≠ some (e, []) := fun e parsed => accepted ⟨e, parsed⟩
    obtain ⟨error, failed⟩ := read_piece_error source before piece after nonempty whole.symm rejected
    rw [standing_unparsed rejected, alone, failed]
    rfl

theorem mapping_laid_out (text : List Token → String) (entries : List Entry) :
    Mapping.ofEntries (mapEntries text (entries.map Entry.trees)) =
      Mapping.ofList (entries.filterMap Entry.labels?) := by
  rw [Mapping.ofEntries, map_entries_eq, List.map_map, List.filterMap_map]
  congr 2
  funext entry
  dsimp only [Function.comp, Entry.trees]
  rw [segment_standing, segment_standing]
  rfl

/-- A text that is laid out as a dictionary is read to one with these keys and values, each read by itself.
Its mapping has the entries between two string literals, a key where it came first and with its last value. -/
theorem read_laid_out_dictionary (source : String) (entries : List Entry)
    (layout : DictionaryLayout entries (scan source)) :
    ∃ trees mapping, read source = .ok (.dictionary (textOf source.toList (scan source)) trees) ∧
      trees = entries.map (fun entry =>
        (alone (textOf source.toList entry.key), alone (textOf source.toList entry.value))) ∧
      trees.map (fun tree => (tree.1.source, tree.2.source)) = entries.map (fun entry =>
        (textOf source.toList entry.key, textOf source.toList entry.value)) ∧
      (Expr.dictionary (textOf source.toList (scan source)) trees).mapping? = some mapping ∧
      mapping = Mapping.ofList (entries.filterMap Entry.labels?) ∧
      mapping.keys = ((entries.filterMap Entry.labels?).map Prod.fst).eraseDups ∧
      ∀ key, mapping.get? key = (entries.filterMap Entry.labels?).reverse.lookup key := by
  have faithful : AllFaithful (scan source) := fun t inside => scan_faithful 0 source.toList t inside
  have parsed := expression_laid_out entries (scan source) layout faithful
  have among := layout_among layout
  have pieces (entry : Entry) (present : entry ∈ entries) (piece : List Token)
      (one : piece ∈ [entry.key, entry.value]) :
      (standing piece).map (textOf source.toList) = alone (textOf source.toList piece) ∧
        (alone (textOf source.toList piece)).source = textOf source.toList piece := by
    obtain ⟨nonempty, nested, part⟩ := among entry present piece one
    have same := standing_alone source piece nonempty part
    refine ⟨same, ?_⟩
    rw [← same, source_map, standing_source piece ⟨fun t inside => faithful t (part.subset inside), nested⟩]
  refine ⟨mapEntries (textOf source.toList) (entries.map Entry.trees), _, (read_ok_iff _ _).mpr ⟨_, parsed, rfl⟩, ?_,
    ?_, congrArg some (mapping_laid_out _ entries), rfl, Mapping.keys_of_list _, Mapping.get_of_list _⟩
  · rw [map_entries_eq, List.map_map]
    apply List.map_congr_left
    intro entry present
    dsimp only [Function.comp, Entry.trees]
    rw [(pieces entry present entry.key (by simp)).1, (pieces entry present entry.value (by simp)).1]
  · rw [map_entries_eq, List.map_map, List.map_map]
    apply List.map_congr_left
    intro entry present
    have key := pieces entry present entry.key (by simp)
    have value := pieces entry present entry.value (by simp)
    dsimp only [Function.comp, Entry.trees]
    rw [key.1, value.1, key.2, value.2]

def crowdedSource : String := "[\"a\": \"x\", f(1, b): c<d, \"a\": \"z\",]"

def crowdedEntries : List Entry :=
  [⟨[⟨.string, "\"a\"", 1, 4⟩], [⟨.string, "\"x\"", 6, 9⟩]⟩,
    ⟨[⟨.ident, "f", 11, 12⟩, ⟨.punct, "(", 12, 13⟩, ⟨.number, "1", 13, 14⟩, ⟨.punct, ",", 14, 15⟩,
        ⟨.ident, "b", 16, 17⟩, ⟨.punct, ")", 17, 18⟩],
      [⟨.ident, "c", 20, 21⟩, ⟨.punct, "<", 21, 22⟩, ⟨.ident, "d", 22, 23⟩]⟩,
    ⟨[⟨.string, "\"a\"", 25, 28⟩], [⟨.string, "\"z\"", 30, 33⟩]⟩]

theorem crowded_layout : DictionaryLayout crowdedEntries (scan crowdedSource) := by
  have proper : ∀ entry ∈ crowdedEntries, entry.Proper := by
    intro entry present
    have key : entry.key ≠ [] ∧ Nested entry.key ∧ Free [",", ":"] entry.key := by
      revert entry
      decide
    have value : entry.value ≠ [] ∧ Nested entry.value ∧ Free [","] entry.value := by
      revert entry
      decide
    exact ⟨⟨key.1, key.2.1, key.2.2⟩, ⟨value.1, value.2.1, value.2.2⟩⟩
  have tokens : scan crowdedSource =
      ⟨.punct, "[", 0, 1⟩ :: ⟨.string, "\"a\"", 1, 4⟩ :: ⟨.punct, ":", 4, 5⟩ :: ⟨.string, "\"x\"", 6, 9⟩ ::
      ⟨.punct, ",", 9, 10⟩ :: ⟨.ident, "f", 11, 12⟩ :: ⟨.punct, "(", 12, 13⟩ :: ⟨.number, "1", 13, 14⟩ ::
      ⟨.punct, ",", 14, 15⟩ :: ⟨.ident, "b", 16, 17⟩ :: ⟨.punct, ")", 17, 18⟩ :: ⟨.punct, ":", 18, 19⟩ ::
      ⟨.ident, "c", 20, 21⟩ :: ⟨.punct, "<", 21, 22⟩ :: ⟨.ident, "d", 22, 23⟩ :: ⟨.punct, ",", 23, 24⟩ ::
      ⟨.string, "\"a\"", 25, 28⟩ :: ⟨.punct, ":", 28, 29⟩ :: ⟨.string, "\"z\"", 30, 33⟩ ::
      ⟨.punct, ",", 33, 34⟩ :: ⟨.punct, "]", 34, 35⟩ :: [] := by cbv
  rw [tokens]
  apply DictionaryLayout.mk _ _ rfl rfl _ (proper _ (by simp [crowdedEntries]))
  apply EntriesTail.next _ _ rfl rfl _ (proper _ (by simp [crowdedEntries]))
  apply EntriesTail.next _ _ rfl rfl _ (proper _ (by simp [crowdedEntries]))
  exact EntriesTail.commaClose _ _ rfl rfl

theorem read_crowded_dictionary :
    DictionaryLayout crowdedEntries (scan crowdedSource) ∧
      ∃ trees mapping, read crowdedSource = .ok (.dictionary crowdedSource trees) ∧
        trees.map (fun tree => (tree.1.source, tree.2.source)) =
          [("\"a\"", "\"x\""), ("f(1, b)", "c<d"), ("\"a\"", "\"z\"")] ∧
        (Expr.dictionary crowdedSource trees).mapping? = some mapping ∧ mapping.keys = ["a"] ∧
        mapping.get? "a" = some "z" := by
  obtain ⟨trees, mapping, accepted, _, sources, found, _, keys, values⟩ :=
    read_laid_out_dictionary crowdedSource crowdedEntries crowded_layout
  have whole : textOf crowdedSource.toList (scan crowdedSource) = crowdedSource := by cbv
  have labels : crowdedEntries.filterMap Entry.labels? = [("a", "x"), ("a", "z")] := by cbv
  rw [whole] at accepted
  rw [labels] at keys values
  refine ⟨crowded_layout, trees, mapping, accepted, ?_, found, keys, values "a"⟩
  rw [sources]
  cbv

end ScreenDispatch.Expr
