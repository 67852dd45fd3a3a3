import Mathlib
import ScreenDispatch.Proofs.FileRequests
import ScreenDispatch.Run

/-!
What a look at the schema leaves alone. The flags among the arguments decide which options are set, and a run
whose options ask for a listing or about a named declaration writes nothing.
-/
set_option autoImplicit false

namespace ScreenDispatch

namespace CommandLine

def FlagGiven (arguments : List String) (flag : Flag) : Prop :=
  ∃ words spelling attached, Word.ofArguments arguments = .ok words ∧ Word.flag flag spelling attached ∈ words

def Step.sets (flag : Flag) : Step → Bool
  | .flag f _ _ _ => f == flag
  | .extra _ => false

def Word.sets (flag : Flag) : Word → Bool
  | .flag f _ _ => f == flag
  | _ => false

theorem extras_set_nothing (flag : Flag) (values : List String) : (values.map Step.extra).any (·.sets flag) = false := by
  rw [List.any_map]
  exact List.any_eq_false.mpr fun _ _ => Bool.false_ne_true

theorem steps_from_set (flag : Flag) (words : List Word) :
    (stepsFrom words).2.any (·.sets flag) = words.any (·.sets flag) := by
  induction words with
  | nil => rfl
  | cons word rest ih =>
      cases word with
      | value text => exact ih
      | flag f spelling attached => exact congrArg (f == flag || ·) ih
      | separator | unknown text =>
          change ((stepsFrom rest).1.map Step.extra ++ (stepsFrom rest).2).any (·.sets flag) = rest.any (·.sets flag)
          rw [List.any_append, extras_set_nothing, Bool.false_or, ih]

theorem steps_set (flag : Flag) (words : List Word) :
    (stepsOf words).any (·.sets flag) = words.any (·.sets flag) := by
  simp only [stepsOf, List.any_append, extras_set_nothing, Bool.false_or, steps_from_set]

theorem flag_given_iff (arguments : List String) (words : List Word) (read : Word.ofArguments arguments = .ok words)
    (flag : Flag) : FlagGiven arguments flag ↔ (stepsOf words).any (·.sets flag) = true := by
  rw [steps_set, List.any_eq_true]
  constructor
  · rintro ⟨others, spelling, attached, same, present⟩
    obtain rfl : words = others := Except.ok.inj (read.symm.trans same)
    exact ⟨_, present, beq_self_eq_true flag⟩
  · rintro ⟨word, present, sets⟩
    cases word with
    | flag f spelling attached =>
        obtain rfl : f = flag := eq_of_beq sets
        exact ⟨words, spelling, attached, read, present⟩
    | value text | unknown text | separator => cases sets

namespace Options

structure Marked (o : Options) (listing info : Bool) (marked : Options) : Prop where
  listing_eq : marked.listing = (o.listing || listing)
  info_eq : marked.info.isAbsent = (o.info.isAbsent && !info)
  exclusive : (o.listing = true → o.info.isAbsent = true) → marked.listing = true → marked.info.isAbsent = true

theorem marked_same (o marked : Options) (listing : marked.listing = o.listing) (info : marked.info = o.info) :
    Marked o false false marked where
  listing_eq := by rw [listing, Bool.or_false]
  info_eq := by rw [info, Bool.not_false, Bool.and_true]
  exclusive apart := by rw [listing, info]; exact apart

theorem Marked.then {o between marked : Options} {listing info more moreInfo : Bool}
    (first : Marked o listing info between) (second : Marked between more moreInfo marked) :
    Marked o (listing || more) (info || moreInfo) marked where
  listing_eq := by rw [second.listing_eq, first.listing_eq, Bool.or_assoc]
  info_eq := by rw [second.info_eq, first.info_eq, Bool.not_or, Bool.and_assoc]
  exclusive apart := second.exclusive (first.exclusive apart)

theorem switch_marks (o marked : Options) (t : Toggle) (done : o.switch t = .ok marked) :
    t = .listDeclarations ∧ Marked o true false marked := by
  cases t with
  | help => cases done
  | listDeclarations =>
      refine ⟨rfl, ?_⟩
      rw [switch] at done
      split at done
      · rename_i absent
        obtain rfl := Except.ok.inj done
        exact ⟨(Bool.or_true _).symm, (Bool.and_true _).symm, fun _ _ => absent⟩
      · cases done

theorem switches_mark (o marked : Options) (ts : List Toggle) (done : ts.foldlM switch o = .ok marked) :
    Marked o (!ts.isEmpty) false marked ∧ ∀ t ∈ ts, t = .listDeclarations := by
  induction ts generalizing o with
  | nil =>
      obtain rfl := Except.ok.inj done
      exact ⟨marked_same o o rfl rfl, fun _ present => nomatch present⟩
  | cons t rest ih =>
      rw [List.foldlM_cons] at done
      obtain ⟨between, switched, rest_done⟩ := bind_ok _ _ _ done
      obtain ⟨rfl, first⟩ := switch_marks o between t switched
      obtain ⟨second, all⟩ := ih between rest_done
      exact ⟨first.then second, List.forall_mem_cons.mpr ⟨rfl, all⟩⟩

theorem set_info_marks (o marked : Options) (value : FlagValue String) (present : value.isAbsent = false)
    (done : o.setInfo value = .ok marked) : Marked o false true marked := by
  rw [setInfo] at done
  split at done
  · cases done
  · rename_i plain
    obtain rfl := Except.ok.inj done
    exact ⟨(Bool.or_false _).symm, by rw [present, Bool.not_true, Bool.and_false],
      fun _ listing => absurd listing plain⟩

theorem set_marks (o marked : Options) (s : Single) (value : String) (done : o.set s value = .ok marked) :
    Marked o false (Flag.single s == .single .info) marked := by
  cases s with
  | info => exact set_info_marks o marked _ rfl done
  | schema | outputDir | filter =>
      obtain rfl := Except.ok.inj done
      exact marked_same o _ rfl rfl
  | unlabeledArguments =>
      rw [set] at done
      split at done
      · obtain rfl := Except.ok.inj done
        exact marked_same o _ rfl rfl
      · cases done

theorem set_empty_marks (o marked : Options) (s : Single) (done : o.setEmpty s = .ok marked) :
    Marked o false (Flag.single s == .single .info) marked := by
  cases s with
  | info => exact set_info_marks o marked _ rfl done
  | schema | outputDir | filter | unlabeledArguments =>
      obtain rfl := Except.ok.inj done
      exact marked_same o _ rfl rfl

theorem extend_marks (o : Options) (m : Multiple) (values : List String) : Marked o false false (o.extend m values) := by
  cases m <;> exact marked_same o _ rfl rfl

end Options

theorem letters_begin (t : Toggle) (cs : List Char) (ts : List Toggle) (read : letters t cs = .ok ts) :
    ∃ more, ts = t :: more := by
  cases cs with
  | nil => exact ⟨[], (Except.ok.inj read).symm⟩
  | cons c rest =>
      rw [letters] at read
      split at read
      · obtain ⟨more, _, same⟩ := bind_ok _ _ _ read
        exact ⟨more, (Except.ok.inj same).symm⟩
      · cases read

theorem toggles_begin (t : Toggle) (spelling : String) (attached : Option String) (ts : List Toggle)
    (read : toggles t spelling attached = .ok ts) : ∃ more, ts = t :: more := by
  cases attached with
  | none => exact ⟨[], (Except.ok.inj read).symm⟩
  | some attached =>
      rw [toggles] at read
      split at read
      · exact letters_begin t _ ts read
      · cases read

namespace Progress

theorem take_marks (p q : Progress) (flag : Flag) (spelling : String) (attached : Option String)
    (behind : List String) (done : p.take flag spelling attached behind = .ok q) :
    p.options.Marked (flag == .toggle .listDeclarations) (flag == .single .info) q.options := by
  cases flag with
  | toggle t =>
      obtain ⟨ts, switched, run⟩ := bind_ok _ _ _ done
      obtain ⟨options, all, same⟩ := bind_ok _ _ _ run
      obtain rfl := Except.ok.inj same
      obtain ⟨more, rfl⟩ := toggles_begin t spelling attached ts (map_error_ok _ _ ts switched)
      obtain ⟨marked, only⟩ := Options.switches_mark p.options options _ all
      obtain rfl := only t List.mem_cons_self
      exact marked
  | single s =>
      cases attached with
      | some value =>
          rw [take] at done
          split at done
          all_goals
            obtain ⟨options, set, same⟩ := bind_ok _ _ _ done
            obtain rfl := Except.ok.inj same
          · exact Options.set_empty_marks p.options options s set
          · exact Options.set_marks p.options options s value set
      | none =>
          cases behind with
          | nil => cases done
          | cons value rest =>
              obtain ⟨options, set, same⟩ := bind_ok _ _ _ done
              obtain rfl := Except.ok.inj same
              exact Options.set_marks p.options options s value set
  | multiple m =>
      cases attached with
      | some value =>
          obtain rfl := Except.ok.inj done
          exact Options.extend_marks p.options m _
      | none =>
          cases behind with
          | nil => cases done
          | cons value rest =>
              obtain rfl := Except.ok.inj done
              exact Options.extend_marks p.options m _

theorem step_marks (p q : Progress) (st : Step) (done : p.step st = .ok q) :
    p.options.Marked (st.sets (.toggle .listDeclarations)) (st.sets (.single .info)) q.options := by
  cases st with
  | extra text =>
      obtain rfl := Except.ok.inj done
      exact Options.marked_same p.options _ rfl rfl
  | flag f spelling attached behind => exact take_marks p q f spelling attached behind done

theorem steps_mark (p q : Progress) (steps : List Step) (done : steps.foldlM step p = .ok q) :
    p.options.Marked (steps.any (·.sets (.toggle .listDeclarations))) (steps.any (·.sets (.single .info)))
      q.options := by
  induction steps generalizing p with
  | nil =>
      obtain rfl := Except.ok.inj done
      exact Options.marked_same p.options _ rfl rfl
  | cons st rest ih =>
      rw [List.foldlM_cons] at done
      obtain ⟨between, first, others⟩ := bind_ok _ _ _ done
      exact (step_marks p between st first).then (ih between others)

end Progress

theorem options_marked (arguments : List String) (o : Options) (accepted : Options.ofArguments arguments = .ok o) :
    (FlagGiven arguments (.toggle .listDeclarations) ↔ o.listing = true) ∧
    (FlagGiven arguments (.single .info) ↔ o.info.isAbsent = false) ∧
    (o.listing = true → o.info.isAbsent = true) := by
  obtain ⟨words, read, run⟩ := bind_ok _ _ _ accepted
  obtain ⟨reached, steps, taken⟩ := bind_ok _ _ _ run
  obtain rfl : reached.options = o := by
    split at taken
    · exact Except.ok.inj taken
    · cases taken
  have given (flag : Flag) := flag_given_iff arguments words (map_error_ok _ _ words read) flag
  obtain ⟨listing, info, exclusive⟩ := Progress.steps_mark _ reached (stepsOf words) steps
  refine ⟨(given _).trans (Iff.of_eq (congrArg (· = true) listing.symm)), ?_, exclusive fun unset => nomatch unset⟩
  rw [given, info]
  exact Iff.of_eq (Bool.not_eq_false' _).symm

end CommandLine

namespace Request

theorem config_discovers (s : FileStore) (r : Request) (looks : r.looks = true) (config : Config)
    (done : r.config s = .ok config) : ∃ c, config = .discover c := by
  cases config with
  | discover c => exact ⟨c, rfl⟩
  | generate c =>
      obtain ⟨names, all⟩ := (config_generate_iff s r c).mp done
      exact absurd looks (ne_true_of_eq_false all.noLook)

end Request

theorem discovery_keeps_store (s : FileStore) (c : DiscoveryConfig) : (c.run s).store = s := by
  unfold DiscoveryConfig.run
  split
  · rfl
  · split <;> split <;> rfl

theorem look_keeps_store (s : FileStore) (r : Request) (looks : r.looks = true) : (r.run s).store = s := by
  unfold Request.run
  split
  · rfl
  · rfl
  · rename_i config done
    obtain ⟨c, rfl⟩ := r.config_discovers s looks config done
    exact discovery_keeps_store s c

theorem unnamed_inquiry_ignored (s : FileStore) (r : Request) (listing : r.listing = false)
    (unfilled : r.info.isFilled = false) : r.run s = ({ r with info := .null } : Request).run s := by
  obtain ⟨schema, outputDir, declarations, imports, unlabeled, listed, info, filter⟩ := r
  obtain rfl : listed = false := listing
  change info.isFilled = false at unfilled
  have premises : Request.premises s ⟨schema, outputDir, declarations, imports, unlabeled, false, info, filter⟩ =
      Request.premises s ⟨schema, outputDir, declarations, imports, unlabeled, false, .null, filter⟩ := by
    rw [Request.premises, Request.looks, unfilled]
    rfl
  have settled (names : List String) (path : Path) (policy : UnlabeledPolicy) :
      Request.settled ⟨schema, outputDir, declarations, imports, unlabeled, false, info, filter⟩ names path policy =
        Request.settled ⟨schema, outputDir, declarations, imports, unlabeled, false, .null, filter⟩ names path
          policy := by
    rw [Request.settled, Request.looks, unfilled]
    rfl
  rw [Request.run, Request.run, Request.config, Request.config, premises]
  simp only [settled]

open CommandLine in
/-- A run with a listing writes nothing, and neither does one that asks about a named declaration. A run that asks
about a declaration of no name is the run without the question. -/
theorem inquiries_write_nothing (s : FileStore) (arguments : List String) (o : Options)
    (accepted : Options.ofArguments arguments = .ok o) :
    (FlagGiven arguments (.toggle .listDeclarations) → (Run.ofArguments s arguments).store = s) ∧
    (FlagGiven arguments (.single .info) →
      if o.info = .empty ∨ o.info = .given "" then
        Run.ofArguments s arguments = ({ o with info := .absent } : Options).request.run s
      else (Run.ofArguments s arguments).store = s) := by
  obtain ⟨listing_iff, info_iff, exclusive⟩ := options_marked arguments o accepted
  have run : Run.ofArguments s arguments = o.request.run s := by rw [Run.ofArguments, accepted]
  rw [run]
  constructor
  · intro listed
    have listing := listing_iff.mp listed
    exact look_keeps_store s o.request (Bool.or_eq_true_iff.mpr (.inl listing))
  · intro asked
    have present := info_iff.mp asked
    split
    · rename_i unnamed
      have plain : o.listing = false :=
        Bool.eq_false_iff.mpr fun listing => absurd (exclusive listing) (Bool.eq_false_iff.mp present)
      refine unnamed_inquiry_ignored s o.request plain ?_
      obtain empty | given := unnamed
      · rw [Options.request, empty]; rfl
      · rw [Options.request, given]; rfl
    · rename_i named
      refine look_keeps_store s o.request (Bool.or_eq_true_iff.mpr (.inr ?_))
      cases info : o.info with
      | absent => rw [info] at present; cases present
      | empty => exact absurd (.inl info) named
      | given name =>
          have filled : name ≠ "" := fun same => named (.inr (same ▸ info))
          rw [Options.request, info]
          exact bne_iff_ne.mpr filled

def homeText : String := "<schema><declaration name=\"Home\"/></schema>"

def homeStore : FileStore := ⟨[], [(["s.xml"], .file homeText)], List.not_mem_nil⟩

def homeRoot : Markup.Element := .node "schema" [] none [.node "declaration" [("name", "Home")] none []]

set_option maxRecDepth 4000 in
theorem home_read : Markup.Element.read homeText = .ok homeRoot := by
  cbv

theorem home_schema_loaded : loadSchema homeStore ⟨0, ["s.xml"]⟩ = .ok ⟨"unversioned", [⟨"Home", "enum", none, []⟩]⟩ := by
  have text : homeStore.read ⟨0, ["s.xml"]⟩ = .ok homeText := by rfl
  rw [loadSchema, text]
  simp only [Except.mapError, bind, Except.bind, home_read]
  rfl

def homeGeneration : GenerateConfig :=
  ⟨⟨0, ["s.xml"]⟩, .given ⟨0, ["Generated"]⟩, [], defaultImports, .positional⟩

theorem home_generation_writes : (homeGeneration.run homeStore).store.entries.length = 3 := by
  rw [GenerateConfig.run, show loadSchema homeStore homeGeneration.schema = _ from home_schema_loaded]
  decide +kernel

open CommandLine in
theorem named_inquiry_writes_nothing :
    ∃ o, Options.ofArguments ["--schema", "s.xml", "--inf=Home"] = .ok o ∧
      FlagGiven ["--schema", "s.xml", "--inf=Home"] (.single .info) ∧ o.info = .given "Home" ∧
      (Run.ofArguments homeStore ["--schema", "s.xml", "--inf=Home"]).store = homeStore := by
  have accepted : Options.ofArguments ["--schema", "s.xml", "--inf=Home"] =
      .ok { Options.default with schema := .given ⟨0, ["s.xml"]⟩, info := .given "Home" } := by cbv
  have asked : FlagGiven ["--schema", "s.xml", "--inf=Home"] (.single .info) :=
    ⟨[.flag (.single .schema) "--schema" none, .value "s.xml", .flag (.single .info) "--info" (some "Home")],
      "--info", some "Home", by cbv, by decide⟩
  have same := (inquiries_write_nothing homeStore _ _ accepted).2 asked
  rw [if_neg (by decide)] at same
  exact ⟨_, accepted, asked, rfl, same⟩

open CommandLine in
theorem unnamed_inquiry_writes :
    (∃ o, Options.ofArguments ["--schema", "s.xml", "--info", ""] = .ok o) ∧
      FlagGiven ["--schema", "s.xml", "--info", ""] (.single .info) ∧
      (Run.ofArguments homeStore ["--schema", "s.xml", "--info", ""]).store ≠ homeStore := by
  have accepted : Options.ofArguments ["--schema", "s.xml", "--info", ""] =
      .ok { Options.default with schema := .given ⟨0, ["s.xml"]⟩, info := .given "" } := by cbv
  have asked : FlagGiven ["--schema", "s.xml", "--info", ""] (.single .info) :=
    ⟨[.flag (.single .schema) "--schema" none, .value "s.xml", .flag (.single .info) "--info" none, .value ""],
      "--info", none, by cbv, by decide⟩
  have config : ({ Options.default with schema := .given ⟨0, ["s.xml"]⟩, info := .given "" } :
      Options).request.config homeStore = .ok (.generate homeGeneration) := by cbv
  have run : Run.ofArguments homeStore ["--schema", "s.xml", "--info", ""] = homeGeneration.run homeStore := by
    rw [Run.ofArguments, accepted]
    simp only [Request.run, config]
    rfl
  refine ⟨⟨_, accepted⟩, asked, fun same => ?_⟩
  have three := home_generation_writes
  rw [← run, same] at three
  cases three

end ScreenDispatch
