import Mathlib.Tactic
import SyntaxCheck.CommandLine.Program

/-!
# Flags that only change what is printed

Three flags say how a run is told: as JSON, with more of the log, without colours. Leaving them out
of a command line that is accepted leaves one that is accepted and asks for the same run. The words
are read side by side with and without the flags: a flag settles the argument before it a word
earlier, and apart from that the two drafts agree on all that the run depends on.
-/

namespace SyntaxCheck.Proofs

open CommandLine

/-- Whether the word is a flag that says how a run is told. -/
def isOutputFlag (word : String) : Bool :=
  ["--json", "--verbose", "-v", "--no-color"].contains word

/-- The words without these flags. After two dashes a word stands for itself. -/
def withoutOutputFlags : List String → List String
  | [] => []
  | word :: rest =>
    if word = "--" then word :: rest
    else if isOutputFlag word then withoutOutputFlags rest
    else word :: withoutOutputFlags rest

/-- The options ask for the same run. -/
structure SameRun (o o' : Options) : Prop where
  root_eq : o.root = o'.root
  ignore_eq : o.ignore = o'.ignore
  noDefaultIgnores_eq : o.noDefaultIgnores = o'.noDefaultIgnores
  config_eq : o.config = o'.config

/-- The drafts ask for the same run, and the one without flags has used no more arguments. -/
structure Agree (d e : Draft) : Prop where
  options : SameRun d.options e.options
  used_subset : ∀ a, a ∈ e.used → a ∈ d.used
  config_used : .config ∈ d.used → .config ∈ e.used
  rootSeen_eq : d.rootSeen = e.rootSeen
  pending_eq : d.pending = e.pending

/-- The drafts agree, perhaps after the argument that is waiting in the second one is taken in. -/
def AgreeSettled (d e : Draft) : Prop :=
  ∃ e', (e' = e ∨ e.settle = .ok e') ∧ Agree d e'

variable {d d' e : Draft} {a b : CommandLine.Argument} {value : String}

lemma agreeSettled_of_agree (h : Agree d e) : AgreeSettled d e :=
  ⟨e, Or.inl rfl, h⟩

/-! ### Taking in an argument -/

lemma mem_used_use : b ∈ (d.use a).used ↔ b = a ∨ b ∈ d.used := by
  unfold Draft.use
  split
  · next hmem =>
    refine ⟨Or.inr, ?_⟩
    rintro (rfl | hb)
    · exact hmem
    · exact hb
  · simp [or_comm]

lemma use_rootSeen : (d.use a).rootSeen = d.rootSeen := by
  unfold Draft.use
  split <;> rfl

lemma use_pending : (d.use a).pending = d.pending := by
  unfold Draft.use
  split <;> rfl

/-- Noting an argument and changing the options in the same way keeps drafts in agreement. -/
lemma agree_use (h : Agree d e) {o o' : Options} (ho : SameRun o o') :
    Agree { d.use a with options := o } { e.use a with options := o' } := by
  refine ⟨ho, ?_, ?_, ?_, ?_⟩
  · intro b hb
    exact mem_used_use.mpr ((mem_used_use.mp hb).imp_right (h.used_subset b))
  · intro hb
    exact mem_used_use.mpr ((mem_used_use.mp hb).imp_right h.config_used)
  · change (d.use a).rootSeen = (e.use a).rootSeen
    rw [use_rootSeen, use_rootSeen, h.rootSeen_eq]
  · change (d.use a).pending = (e.use a).pending
    rw [use_pending, use_pending, h.pending_eq]

lemma agree_assign (h : Agree d e) (hassign : d.assign a value = .ok d') :
    ∃ e', e.assign a value = .ok e' ∧ Agree d' e' := by
  obtain ⟨hroot, hignore, hdefaults, hconfig⟩ := h.options
  cases a with
  | ignore =>
    obtain rfl := Except.ok.inj hassign
    exact ⟨_, rfl, agree_use h ⟨hroot, by simp [hignore], hdefaults, hconfig⟩⟩
  | config =>
    rw [Draft.assign] at hassign ⊢
    by_cases hused : CommandLine.Argument.config ∈ d.used
    · simp [hused] at hassign
    · have hfree : CommandLine.Argument.config ∉ e.used := fun hmem => hused (h.used_subset _ hmem)
      rw [if_neg hused] at hassign
      rw [if_neg hfree]
      by_cases hempty : value = ""
      · simp [hempty] at hassign
      · rw [if_neg hempty] at hassign ⊢
        obtain rfl := Except.ok.inj hassign
        exact ⟨_, rfl, agree_use h ⟨hroot, hignore, hdefaults, rfl⟩⟩
  | _ =>
    rw [Draft.assign] at hassign ⊢
    · by_cases hempty : value = ""
      · simp [hempty] at hassign
      · rw [if_neg hempty] at hassign ⊢
        obtain rfl := Except.ok.inj hassign
        exact ⟨_, rfl, agree_use h ⟨rfl, hignore, hdefaults, hconfig⟩⟩
    all_goals simp

lemma assign_eq_ok (h : d.assign a value = .ok d') :
    ∃ o, d' = { d.use a with options := o } := by
  unfold Draft.assign at h
  split at h
  · exact ⟨_, (Except.ok.inj h).symm⟩
  · split at h
    · cases h
    · split at h
      · cases h
      · exact ⟨_, (Except.ok.inj h).symm⟩
  · split at h
    · cases h
    · exact ⟨_, (Except.ok.inj h).symm⟩

lemma settle_of_pending_none (h : d.pending = none) : d.settle = .ok d := by
  simp [Draft.settle, h]

/-- What was waiting is taken in, and nothing waits after it. -/
lemma settle_eq_ok (h : d.settle = .ok d') : d'.pending = none ∧ d'.rootSeen = d.rootSeen := by
  unfold Draft.settle at h
  dsimp only at h
  split at h
  · next hnone =>
    obtain rfl := Except.ok.inj h
    exact ⟨hnone, rfl⟩
  · cases h
  · obtain ⟨o, rfl⟩ := assign_eq_ok h
    exact ⟨use_pending, use_rootSeen⟩

lemma agree_settle (h : Agree d e) (hsettle : d.settle = .ok d') :
    ∃ e', e.settle = .ok e' ∧ Agree d' e' := by
  unfold Draft.settle at hsettle ⊢
  rw [← h.pending_eq]
  cases hpending : d.pending with
  | none =>
    rw [hpending] at hsettle
    obtain rfl := Except.ok.inj hsettle
    exact ⟨e, rfl, h⟩
  | some waiting =>
    obtain ⟨a, value⟩ := waiting
    rw [hpending] at hsettle
    cases value with
    | none => cases hsettle
    | some value =>
      have hfree : Agree { d with pending := none } { e with pending := none } :=
        ⟨h.options, h.used_subset, h.config_used, h.rootSeen_eq, rfl⟩
      exact agree_assign hfree hsettle

/-- When an argument begins, what was waiting has been taken in on both sides. -/
lemma agreeSettled_settle (h : AgreeSettled d e) (hsettle : d.settle = .ok d') :
    ∃ e', e.settle = .ok e' ∧ Agree d' e' := by
  obtain ⟨e', rfl | he, hagree⟩ := h
  · exact agree_settle hagree hsettle
  · have hnone : d.pending = none := by rw [hagree.pending_eq, (settle_eq_ok he).1]
    rw [settle_of_pending_none hnone] at hsettle
    obtain rfl := Except.ok.inj hsettle
    exact ⟨e', he, hagree⟩

/-! ### Taking a word -/

/-- The options with a flag set. -/
def setOption (o : Options) : CommandLine.Argument → Options
  | .verbose => { o with verbose := true }
  | .json => { o with json := true }
  | .noDefaultIgnores => { o with noDefaultIgnores := true }
  | .noColor => { o with noColor := true }
  | _ => o

lemma setFlag_eq_ok (h : d.setFlag a = .ok d') :
    ∃ s, d.settle = .ok s ∧ a ∉ s.used ∧
      d' = { s.use a with options := setOption s.options a } := by
  unfold Draft.setFlag at h
  cases hsettle : d.settle with
  | error fault => simp [hsettle, bind, Except.bind] at h
  | ok s =>
    by_cases hused : a ∈ s.used
    · simp [hsettle, hused, bind, Except.bind, throw, throwThe, MonadExceptOf.throw] at h
    · refine ⟨s, rfl, hused, ?_⟩
      simp only [hsettle, bind, Except.bind, hused, if_false, pure, Except.pure] at h
      exact (Except.ok.inj h).symm

lemma setFlag_of_settle {s : Draft} (h : d.settle = .ok s) (hused : a ∉ s.used) :
    d.setFlag a = .ok { s.use a with options := setOption s.options a } := by
  simp only [Draft.setFlag, h, bind, Except.bind, hused, if_false, pure, Except.pure]
  rfl

lemma sameRun_setOption {o o' : Options} (h : SameRun o o') :
    SameRun (setOption o a) (setOption o' a) := by
  obtain ⟨hroot, hignore, hdefaults, hconfig⟩ := h
  cases a <;> exact ⟨hroot, hignore, by first | rfl | exact hdefaults, hconfig⟩

lemma agree_setFlag (h : AgreeSettled d e) (hflag : d.setFlag a = .ok d') :
    ∃ e', e.setFlag a = .ok e' ∧ Agree d' e' := by
  obtain ⟨s, hsettle, hused, rfl⟩ := setFlag_eq_ok hflag
  obtain ⟨t, ht, hagree⟩ := agreeSettled_settle h hsettle
  refine ⟨_, setFlag_of_settle ht fun hmem => hused (hagree.used_subset a hmem), ?_⟩
  exact agree_use hagree (sameRun_setOption hagree.options)

/-- A flag that says how a run is told changes nothing that the run depends on. -/
lemma agreeSettled_outputFlag (h : AgreeSettled d e) (hflag : d.setFlag a = .ok d')
    (ha : a = .json ∨ a = .verbose ∨ a = .noColor) : AgreeSettled d' e := by
  obtain ⟨s, hsettle, _, rfl⟩ := setFlag_eq_ok hflag
  obtain ⟨t, ht, hagree⟩ := agreeSettled_settle h hsettle
  obtain ⟨hroot, hignore, hdefaults, hconfig⟩ := hagree.options
  refine ⟨t, Or.inr ht, ?_, ?_, ?_, ?_, ?_⟩
  · rcases ha with rfl | rfl | rfl <;> exact ⟨hroot, hignore, hdefaults, hconfig⟩
  · intro b hb
    exact mem_used_use.mpr (Or.inr (hagree.used_subset b hb))
  · intro hb
    refine hagree.config_used ((mem_used_use.mp hb).resolve_left ?_)
    rcases ha with rfl | rfl | rfl <;> exact nofun
  · exact use_rootSeen.trans hagree.rootSeen_eq
  · exact use_pending.trans hagree.pending_eq

/-- What is made of a word with and without flags before it: more words can come after drafts that
agree, or what is asked for is no run. -/
def AgreeAfter (p : CommandLine.Progress) (e : Except UsageFault CommandLine.Progress) : Prop :=
  match p with
  | .more d => ∃ e', e = .ok (.more e') ∧ AgreeSettled d e'
  | .done request => ∀ o, request ≠ .run o

lemma agreeAfter_more {d' e' : Draft} (h : Agree d' e') :
    AgreeAfter (.more d') (.ok (.more e')) :=
  ⟨e', rfl, agreeSettled_of_agree h⟩

lemma agreeAfter_wait (h : AgreeSettled d e) {p : CommandLine.Progress}
    (htake : (d.settle.map fun d =>
      CommandLine.Progress.more { d with pending := some (a, none) }) = .ok p) :
    AgreeAfter p (e.settle.map fun e => .more { e with pending := some (a, none) }) := by
  cases hsettle : d.settle with
  | error fault => simp [hsettle, Except.map] at htake
  | ok s =>
    obtain ⟨t, ht, hagree⟩ := agreeSettled_settle h hsettle
    rw [hsettle] at htake
    obtain rfl := Except.ok.inj htake
    rw [ht]
    exact agreeAfter_more
      ⟨hagree.options, hagree.used_subset, hagree.config_used, hagree.rootSeen_eq, rfl⟩

lemma agreeAfter_setFlag (h : AgreeSettled d e) {p : CommandLine.Progress}
    (htake : (d.setFlag a).map .more = .ok p) : AgreeAfter p ((e.setFlag a).map .more) := by
  cases hflag : d.setFlag a with
  | error fault => simp [hflag, Except.map] at htake
  | ok d' =>
    obtain ⟨e', he', hagree⟩ := agree_setFlag h hflag
    rw [hflag] at htake
    obtain rfl := Except.ok.inj htake
    rw [he']
    exact agreeAfter_more hagree

lemma agreeAfter_done {request : Request} (hrequest : ∀ o, request ≠ .run o)
    {p : CommandLine.Progress}
    (htake : (d.settle.map fun _ => CommandLine.Progress.done request) = .ok p)
    (r : Except UsageFault CommandLine.Progress) : AgreeAfter p r := by
  cases hsettle : d.settle with
  | error fault => simp [hsettle, Except.map] at htake
  | ok s =>
    rw [hsettle] at htake
    obtain rfl := Except.ok.inj htake
    exact hrequest

lemma agree_takeLong (h : AgreeSettled d e) {name : String} {value : Option String}
    {p : CommandLine.Progress}
    (htake : takeLong d name value = .ok p) : AgreeAfter p (takeLong e name value) := by
  unfold takeLong at htake ⊢
  cases hname : CommandLine.Argument.ofLongName? name with
  | none => simp [hname] at htake
  | some a =>
    rw [hname] at htake
    cases value with
    | some text =>
      dsimp only at htake ⊢
      by_cases hvalue : a.takesValue
      · rw [if_pos hvalue] at htake ⊢
        cases hsettle : d.settle with
        | error fault => simp [hsettle, bind, Except.bind] at htake
        | ok s =>
          obtain ⟨t, ht, hagree⟩ := agreeSettled_settle h hsettle
          cases hassign : s.assign a text with
          | error fault => simp [hsettle, hassign, bind, Except.bind] at htake
          | ok d' =>
            obtain ⟨e', he', hagree'⟩ := agree_assign hagree hassign
            simp only [hsettle, hassign, bind, Except.bind] at htake
            obtain rfl := Except.ok.inj htake
            simp only [ht, he', bind, Except.bind]
            exact agreeAfter_more hagree'
      · simp [hvalue] at htake
    | none =>
      cases a with
      | help => exact agreeAfter_done (by simp) htake _
      | version => exact agreeAfter_done (by simp) htake _
      | root | ignore | config => exact agreeAfter_wait h htake
      | verbose | json | noDefaultIgnores | noColor => exact agreeAfter_setFlag h htake

lemma agree_takeShorts {flags : List Char} (h : AgreeSettled d e) {p : CommandLine.Progress}
    (htake : takeShorts d flags = .ok p) : AgreeAfter p (takeShorts e flags) := by
  induction flags generalizing d e with
  | nil =>
    obtain rfl := Except.ok.inj htake
    exact ⟨e, rfl, h⟩
  | cons c rest ih =>
    unfold takeShorts at htake ⊢
    by_cases hv : c = 'v'
    · rw [if_pos hv] at htake ⊢
      cases hflag : d.setFlag .verbose with
      | error fault => simp [hflag, bind, Except.bind] at htake
      | ok d' =>
        obtain ⟨e', he', hagree⟩ := agree_setFlag h hflag
        simp only [hflag, bind, Except.bind] at htake
        simp only [he', bind, Except.bind]
        exact ih (agreeSettled_of_agree hagree) htake
    rw [if_neg hv] at htake ⊢
    by_cases hh : c = 'h'
    · rw [if_pos hh] at htake
      exact agreeAfter_done (by simp) htake _
    rw [if_neg hh] at htake ⊢
    by_cases hV : c = 'V'
    · rw [if_pos hV] at htake
      exact agreeAfter_done (by simp) htake _
    · simp [hV] at htake

lemma agreeSettled_rootSeen (h : AgreeSettled d e) : d.rootSeen = e.rootSeen := by
  obtain ⟨e', rfl | he, hagree⟩ := h
  · exact hagree.rootSeen_eq
  · rw [hagree.rootSeen_eq, (settle_eq_ok he).2]

lemma addTrailing_eq_ok {text : String} (h : d.addTrailing text = .ok d') :
    d.rootSeen = false ∧ ∃ s, d.settle = .ok s ∧
      d' = { s with rootSeen := true, pending := some (.root, some text) } := by
  unfold Draft.addTrailing at h
  cases hseen : d.rootSeen with
  | true => simp [hseen, bind, Except.bind, throw, throwThe, MonadExceptOf.throw] at h
  | false =>
    cases hsettle : d.settle with
    | error fault => simp [hseen, hsettle, bind, Except.bind] at h
    | ok s =>
      simp only [hseen, hsettle, bind, Except.bind, pure, Except.pure] at h
      exact ⟨rfl, s, rfl, (Except.ok.inj h).symm⟩

lemma addTrailing_of_settle {s : Draft} {text : String} (hseen : d.rootSeen = false)
    (h : d.settle = .ok s) : d.addTrailing text =
      .ok { s with rootSeen := true, pending := some (.root, some text) } := by
  simp only [Draft.addTrailing, hseen, h, bind, Except.bind, pure, Except.pure]
  rfl

/-- A word that can only be the root is taken in after what was waiting. -/
lemma agree_addTrailing (h : AgreeSettled d e) {text : String}
    (hadd : d.addTrailing text = .ok d') : ∃ e', e.addTrailing text = .ok e' ∧ Agree d' e' := by
  obtain ⟨hseen, s, hsettle, rfl⟩ := addTrailing_eq_ok hadd
  obtain ⟨t, ht, hagree⟩ := agreeSettled_settle h hsettle
  refine ⟨_, addTrailing_of_settle ((agreeSettled_rootSeen h).symm.trans hseen) ht, ?_⟩
  exact ⟨hagree.options, hagree.used_subset, hagree.config_used, rfl, rfl⟩

lemma addPlain_of_waiting {text : String} (h : d.pending = some (a, none)) :
    d.addPlain text = .ok { d with pending := some (a, some text) } := by
  unfold Draft.addPlain
  rw [h]
  rfl

lemma addPlain_of_not_waiting {text : String} (h : ∀ a, d.pending ≠ some (a, none)) :
    d.addPlain text = d.addTrailing text := by
  unfold Draft.addPlain Draft.addTrailing
  split
  · next a hpending => exact absurd hpending (h a)
  · rfl

lemma agree_addPlain (h : AgreeSettled d e) {text : String}
    (hadd : d.addPlain text = .ok d') : ∃ e', e.addPlain text = .ok e' ∧ Agree d' e' := by
  obtain ⟨e', he, hagree⟩ := h
  by_cases hwaiting : ∃ a, d.pending = some (a, none)
  · -- An option waits for its value: it does so on both sides, since it cannot be settled.
    obtain ⟨a, ha⟩ := hwaiting
    have hpending : e'.pending = some (a, none) := hagree.pending_eq.symm.trans ha
    rcases he with rfl | he
    · rw [addPlain_of_waiting ha] at hadd
      obtain rfl := Except.ok.inj hadd
      exact ⟨_, addPlain_of_waiting hpending,
        ⟨hagree.options, hagree.used_subset, hagree.config_used, hagree.rootSeen_eq, rfl⟩⟩
    · rw [(settle_eq_ok he).1] at hpending
      cases hpending
  · push Not at hwaiting
    have hother : ∀ a, e.pending ≠ some (a, none) := by
      intro a ha
      rcases he with rfl | he
      · exact hwaiting a (hagree.pending_eq.trans ha)
      · simp [Draft.settle, ha] at he
    rw [addPlain_of_not_waiting hwaiting] at hadd
    rw [addPlain_of_not_waiting hother]
    exact agree_addTrailing ⟨e', he, hagree⟩ hadd

lemma agree_takeWord (h : AgreeSettled d e) {word : String} {p : CommandLine.Progress}
    (htake : takeWord d word = .ok p) : AgreeAfter p (takeWord e word) := by
  unfold takeWord at htake ⊢
  split at htake
  · exact agree_takeLong h htake
  · exact agree_takeShorts h htake
  · cases hadd : d.addPlain word with
    | error fault => simp [hadd, Except.map] at htake
    | ok d' =>
      obtain ⟨e', he', hagree⟩ := agree_addPlain h hadd
      rw [hadd] at htake
      obtain rfl := Except.ok.inj htake
      rw [he']
      exact agreeAfter_more hagree

/-! ### Reading the words -/

lemma agree_finish (h : AgreeSettled d e) {o : Options} (hfinish : d.finish = .ok (.run o)) :
    ∃ o', e.finish = .ok (.run o') ∧ SameRun o o' := by
  unfold Draft.finish at hfinish ⊢
  cases hsettle : d.settle with
  | error fault => simp [hsettle, Except.map] at hfinish
  | ok s =>
    obtain ⟨t, ht, hagree⟩ := agreeSettled_settle h hsettle
    rw [hsettle] at hfinish
    obtain rfl : s.options = o := Request.run.inj (Except.ok.inj hfinish)
    exact ⟨t.options, by rw [ht]; rfl, hagree.options⟩

lemma agree_foldlM (h : AgreeSettled d e) {words : List String}
    (hfold : words.foldlM Draft.addTrailing d = .ok d') :
    ∃ e', words.foldlM Draft.addTrailing e = .ok e' ∧ AgreeSettled d' e' := by
  induction words generalizing d e with
  | nil =>
    obtain rfl := Except.ok.inj hfold
    exact ⟨e, rfl, h⟩
  | cons word rest ih =>
    rw [List.foldlM_cons] at hfold ⊢
    cases hadd : d.addTrailing word with
    | error fault => simp [hadd, bind, Except.bind] at hfold
    | ok next =>
      obtain ⟨e', he', hagree⟩ := agree_addTrailing h hadd
      simp only [hadd, bind, Except.bind] at hfold
      simp only [he', bind, Except.bind]
      exact ih (agreeSettled_of_agree hagree) hfold

lemma takeWord_verbose (d : Draft) : takeWord d "-v" = (d.setFlag .verbose).map .more := by
  change (do takeShorts (← d.setFlag .verbose) []) = (d.setFlag .verbose).map .more
  cases d.setFlag .verbose <;> rfl

lemma takeWord_outputFlag {word : String} (hword : isOutputFlag word = true)
    {p : CommandLine.Progress}
    (htake : takeWord d word = .ok p) : ∃ a d', (a = .json ∨ a = .verbose ∨ a = .noColor) ∧
      d.setFlag a = .ok d' ∧ p = .more d' := by
  have hset : ∃ a, (a = .json ∨ a = .verbose ∨ a = .noColor) ∧
      takeWord d word = (d.setFlag a).map .more := by
    simp only [isOutputFlag, List.contains_cons, Bool.or_eq_true, beq_iff_eq, List.contains_nil,
      or_false, Bool.false_eq_true] at hword
    rcases hword with rfl | rfl | rfl | rfl
    · exact ⟨.json, by simp, rfl⟩
    · exact ⟨.verbose, by simp, rfl⟩
    · exact ⟨.verbose, by simp, takeWord_verbose d⟩
    · exact ⟨.noColor, by simp, rfl⟩
  obtain ⟨a, ha, heq⟩ := hset
  rw [heq] at htake
  cases hflag : d.setFlag a with
  | error fault => simp [hflag, Except.map] at htake
  | ok d' =>
    rw [hflag] at htake
    exact ⟨a, d', ha, hflag, (Except.ok.inj htake).symm⟩

/-- The words without the flags are accepted if the words are, and ask for the same run. -/
lemma sameRun_parseWords (h : AgreeSettled d e) {words : List String} {o : Options}
    (hparse : parseWords d words = .ok (.run o)) :
    ∃ o', parseWords e (withoutOutputFlags words) = .ok (.run o') ∧ SameRun o o' := by
  induction words generalizing d e with
  | nil => exact agree_finish h hparse
  | cons word rest ih =>
    rw [parseWords] at hparse
    rw [withoutOutputFlags]
    by_cases hend : word = "--"
    · rw [if_pos hend] at hparse ⊢
      rw [parseWords, if_pos hend]
      cases hfold : rest.foldlM Draft.addTrailing d with
      | error fault => simp [hfold, bind, Except.bind] at hparse
      | ok last =>
        obtain ⟨e', he', hagree⟩ := agree_foldlM h hfold
        simp only [hfold, bind, Except.bind] at hparse
        simp only [he', bind, Except.bind]
        exact agree_finish hagree hparse
    rw [if_neg hend] at hparse ⊢
    cases htake : takeWord d word with
    | error fault => simp [htake, bind, Except.bind] at hparse
    | ok p =>
      simp only [htake, bind, Except.bind] at hparse
      by_cases hflag : isOutputFlag word = true
      · obtain ⟨a, d', ha, hset, rfl⟩ := takeWord_outputFlag hflag htake
        rw [if_pos hflag]
        exact ih (agreeSettled_outputFlag h hset ha) hparse
      · rw [if_neg hflag, parseWords, if_neg hend]
        have hafter := agree_takeWord h htake
        cases p with
        | done request => exact absurd (Except.ok.inj hparse) (hafter o)
        | more d' =>
          obtain ⟨e', he', hagree⟩ := hafter
          simp only [he', bind, Except.bind]
          exact ih hagree hparse

theorem sameRun_withoutOutputFlags {words : List String} {o : Options}
    (h : parseArguments words = .ok (.run o)) :
    ∃ o', parseArguments (withoutOutputFlags words) = .ok (.run o') ∧ SameRun o o' := by
  have hsame : SameRun {} {} := ⟨rfl, rfl, rfl, rfl⟩
  exact sameRun_parseWords (agreeSettled_of_agree ⟨hsame, by simp, by simp, rfl, rfl⟩) h

end SyntaxCheck.Proofs
