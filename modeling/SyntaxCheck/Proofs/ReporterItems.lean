import Mathlib.Tactic
import SyntaxCheck.Proofs.ExitCode
import SyntaxCheck.Proofs.ReportLines

/-!
# What a reporter prints

A reporter is told each event as it happens and the report when the run is over; it keeps nothing
but a flag that says whether there was something to check. What it has printed by then is read here
item by item. Every item has a heading that no other kind of item begins with, so the items under a
heading can be counted and compared with the report and with the exit code.
-/

namespace SyntaxCheck.Proofs

/-! ### Headings -/

/-- The kinds of items. -/
inductive Heading
  | skipping
  | missing
  | found
  | pass
  | fail
  | rule
  | success
  | failed
  | listed
deriving DecidableEq

/-- What every item of a kind begins with. -/
def Heading.text (styled : Bool) : Heading → String
  | .skipping => "Skipping "
  | .missing => "No "
  | .found => "Found "
  | .pass => Tone.good.paint styled "PASS" ++ " "
  | .fail => Tone.bad.paint styled "FAIL" ++ " "
  | .rule => separator
  | .success => Tone.good.paint styled "SUCCESS:"
  | .failed => Tone.bad.paint styled "FAILED:"
  | .listed => "  - "

instance (text line : String) : Decidable (Begins text line) :=
  inferInstanceAs (Decidable (text.toList <+: line.toList))

/-- The items under a heading. -/
def under (styled : Bool) (h : Heading) (items : List String) : List String :=
  items.filter fun item => Begins (h.text styled) item

/-- Some item stands under the heading. -/
def Says (styled : Bool) (h : Heading) (items : List String) : Prop :=
  ∃ item ∈ items, Begins (h.text styled) item

lemma says_iff_under_ne_nil {styled : Bool} {h : Heading} {items : List String} :
    Says styled h items ↔ under styled h items ≠ [] := by
  rw [Says, under, ne_eq, List.filter_eq_nil_iff]
  simp

/-- No heading is the beginning of another one. -/
lemma headings_apart (styled : Bool) (h k : Heading) :
    h ≠ k → ¬ Begins (h.text styled) (k.text styled) := by
  cases styled <;> cases h <;> cases k <;> decide

/-- An item that is known by its heading. -/
structure Item where
  heading : Heading
  rest : String

def Item.line (styled : Bool) (i : Item) : String :=
  i.heading.text styled ++ i.rest

lemma begins_line_iff (styled : Bool) (h : Heading) (i : Item) :
    Begins (h.text styled) (i.line styled) ↔ i.heading = h := by
  constructor
  · intro hbegins
    by_contra hne
    -- Of two beginnings of one text, the shorter one begins the longer one.
    rcases List.prefix_or_prefix_of_prefix hbegins (begins_append (i.heading.text styled) i.rest)
      with hprefix | hprefix
    · exact headings_apart styled h i.heading (Ne.symm hne) hprefix
    · exact headings_apart styled i.heading h hne hprefix
  · rintro rfl
    exact begins_append _ _

def headed (h : Heading) (items : List Item) : List Item :=
  items.filter fun i => i.heading = h

lemma under_lines (styled : Bool) (h : Heading) (items : List Item) :
    under styled h (items.map (Item.line styled)) = (headed h items).map (Item.line styled) := by
  rw [under, List.filter_map, headed]
  congr 1
  apply List.filter_congr
  intro i _
  simpa using begins_line_iff styled h i

lemma headed_append (h : Heading) (a b : List Item) :
    headed h (a ++ b) = headed h a ++ headed h b :=
  List.filter_append ..

/-! ### The items of a run -/

def skippingItem (n : Nat) : Item :=
  ⟨.skipping, toString n ++ " ignored file(s)."⟩

def missingItem (kind : String) : Item :=
  ⟨.missing, kind ++ " files found in the project."⟩

def foundItem (kind : String) (n : Nat) : Item :=
  ⟨.found, toString n ++ " " ++ kind ++ " file(s) to check...\n"⟩

def discoveredItems (kind : String) (toCheck ignored : Nat) : List Item :=
  (if 0 < ignored then [skippingItem ignored] else []) ++
    [if toCheck = 0 then missingItem kind else foundItem kind toCheck]

def passItem (o : Outcome) : Item :=
  ⟨.pass, o.path⟩

def failItem (f : Failure) : Item :=
  ⟨.fail, f.path ++ ": " ++ f.message⟩

def listedItem (f : Failure) : Item :=
  ⟨.listed, f.path ++ ": " ++ f.message⟩

def outcomeItem (o : Outcome) : Item :=
  match Run.failure? o with
  | none => passItem o
  | some f => failItem f

def successItem (kind : String) (n : Nat) : Item :=
  ⟨.success, " All " ++ toString n ++ " " ++ kind ++ " file(s) passed syntax check!"⟩

def failedItem (n : Nat) : Item :=
  ⟨.failed, " " ++ toString n ++ " file(s) have syntax errors:"⟩

def summaryItems (kind : String) (r : Report) : List Item :=
  ⟨.rule, ""⟩ ::
    if r.failures.isEmpty then [successItem kind r.filesChecked]
    else failedItem r.failures.length :: r.failures.map listedItem

def runItems (kind : String) (r : Run) : List Item :=
  discoveredItems kind r.report.filesChecked r.report.filesIgnored ++ r.outcomes.map outcomeItem ++
    if r.report.filesChecked = 0 then [] else summaryItems kind r.report

lemma lines_discoveredItems (styled : Bool) (kind : String) (toCheck ignored : Nat) :
    (discoveredItems kind toCheck ignored).map (Item.line styled) =
      discoveredLines kind toCheck ignored := by
  unfold discoveredItems discoveredLines Item.line
  by_cases hchecked : toCheck = 0 <;> by_cases hignored : 0 < ignored <;>
    simp [hchecked, hignored, skippingItem, missingItem, foundItem, Heading.text,
      String.append_assoc]

lemma line_outcomeItem (styled : Bool) (o : Outcome) :
    (outcomeItem o).line styled = outcomeLine styled o := by
  unfold outcomeItem outcomeLine Item.line Run.failure?
  cases herror : o.error with
  | none => rfl
  | some message => simp [failItem, Heading.text, String.append_assoc]

lemma lines_summaryItems (styled : Bool) (kind : String) (r : Report) :
    (summaryItems kind r).map (Item.line styled) = summaryLines styled kind r := by
  unfold summaryItems summaryLines
  by_cases h : r.failures.isEmpty
  · simp [h, Item.line, successItem, Heading.text, String.append_assoc]
  · simp [h, Item.line, failedItem, listedItem, Heading.text, String.append_assoc,
      Function.comp_def]

lemma lines_runItems (styled : Bool) (kind : String) (r : Run) :
    (runItems kind r).map (Item.line styled) =
      discoveredLines kind r.report.filesChecked r.report.filesIgnored ++
        r.outcomes.map (outcomeLine styled) ++
        if r.report.filesChecked = 0 then [] else summaryLines styled kind r.report := by
  have houtcomes : r.outcomes.map (Item.line styled ∘ outcomeItem) =
      r.outcomes.map (outcomeLine styled) :=
    List.map_congr_left fun o _ => line_outcomeItem styled o
  rw [runItems, List.map_append, List.map_append, lines_discoveredItems, List.map_map, houtcomes]
  congr 1
  by_cases hchecked : r.report.filesChecked = 0
  · rw [if_pos hchecked, if_pos hchecked]
    rfl
  · rw [if_neg hchecked, if_neg hchecked, lines_summaryItems]

lemma told_eq_runItems (styled : Bool) (extension : String) (r : Run) :
    told .human styled extension r =
      (runItems (fileKind extension) r).map (Item.line styled) := by
  rw [told_human, Run.events, List.flatMap_cons, flatMap_checked, lines_runItems]
  rfl

/-! ### The items under a heading -/

lemma headed_outcomes_pass (outcomes : List Outcome) :
    headed .pass (outcomes.map outcomeItem) = (outcomes.filter Outcome.passed).map passItem := by
  induction outcomes with
  | nil => rfl
  | cons o outcomes ih =>
    cases herror : o.error <;>
      simp_all [headed, outcomeItem, Run.failure?, passItem, failItem, Outcome.passed]

lemma headed_outcomes_fail (outcomes : List Outcome) :
    headed .fail (outcomes.map outcomeItem) = (outcomes.filterMap Run.failure?).map failItem := by
  induction outcomes with
  | nil => rfl
  | cons o outcomes ih =>
    cases herror : o.error <;>
      simp_all [headed, outcomeItem, Run.failure?, passItem, failItem]

lemma headed_outcomes_other {h : Heading} (hpass : h ≠ .pass) (hfail : h ≠ .fail)
    (outcomes : List Outcome) : headed h (outcomes.map outcomeItem) = [] := by
  rw [headed, List.filter_eq_nil_iff]
  intro i hi
  obtain ⟨o, _, rfl⟩ := List.mem_map.mp hi
  cases herror : o.error with
  | none => simpa [outcomeItem, Run.failure?, herror, passItem] using hpass.symm
  | some message => simpa [outcomeItem, Run.failure?, herror, failItem] using hfail.symm

lemma headed_discovered_other {h : Heading} (hskipping : h ≠ .skipping) (hmissing : h ≠ .missing)
    (hfound : h ≠ .found) (kind : String) (toCheck ignored : Nat) :
    headed h (discoveredItems kind toCheck ignored) = [] := by
  unfold headed discoveredItems
  by_cases hchecked : toCheck = 0 <;> by_cases hignored : 0 < ignored <;>
    simp [hchecked, hignored, skippingItem, missingItem, foundItem, hskipping.symm, hmissing.symm,
      hfound.symm]

lemma headed_map_listedItem (h : Heading) (failures : List Failure) :
    headed h (failures.map listedItem) = if h = .listed then failures.map listedItem else [] := by
  by_cases hlisted : h = .listed
  · rw [if_pos hlisted, headed, List.filter_eq_self]
    simp [listedItem, hlisted]
  · rw [if_neg hlisted, headed, List.filter_eq_nil_iff]
    simp [listedItem, Ne.symm hlisted]

lemma headed_summaryItems {h : Heading} (hrule : h ≠ .rule) (kind : String) (r : Report) :
    headed h (summaryItems kind r) =
      if r.failures = [] then headed h [successItem kind r.filesChecked]
      else headed h [failedItem r.failures.length] ++
        if h = .listed then r.failures.map listedItem else [] := by
  have hhead : headed h (summaryItems kind r) = headed h
      (if r.failures.isEmpty then [successItem kind r.filesChecked]
        else failedItem r.failures.length :: r.failures.map listedItem) := by
    simp [summaryItems, headed, hrule.symm]
  rw [hhead]
  by_cases hfailures : r.failures = []
  · rw [if_pos hfailures, if_pos (List.isEmpty_iff.mpr hfailures)]
  · rw [if_neg hfailures, if_neg (by simpa using hfailures), ← headed_map_listedItem,
      ← headed_append]
    rfl

lemma headed_summary_other {h : Heading} (hrule : h ≠ .rule) (hsuccess : h ≠ .success)
    (hfailed : h ≠ .failed) (hlisted : h ≠ .listed) (kind : String) (r : Report) :
    headed h (summaryItems kind r) = [] := by
  rw [headed_summaryItems hrule, if_neg hlisted]
  simp [headed, successItem, failedItem, hsuccess.symm, hfailed.symm]

section

variable {r : Run} {kind : String}

lemma headed_runItems (h : Heading) : headed h (runItems kind r) =
    headed h (discoveredItems kind r.report.filesChecked r.report.filesIgnored) ++
      headed h (r.outcomes.map outcomeItem) ++
      if r.report.filesChecked = 0 then [] else headed h (summaryItems kind r.report) := by
  rw [runItems, headed_append, headed_append]
  by_cases hchecked : r.report.filesChecked = 0
  · rw [if_pos hchecked, if_pos hchecked]
    rfl
  · rw [if_neg hchecked, if_neg hchecked]

/-- What stands under a heading of the files that were found. -/
lemma headed_of_discovered {h : Heading} (hfound : h = .skipping ∨ h = .missing) :
    headed h (runItems kind r) =
      headed h (discoveredItems kind r.report.filesChecked r.report.filesIgnored) := by
  rw [headed_runItems]
  rcases hfound with rfl | rfl <;>
    rw [headed_outcomes_other (by decide) (by decide),
      headed_summary_other (by decide) (by decide) (by decide) (by decide), ite_self,
      List.append_nil, List.append_nil]

/-- What stands under a heading of the files that were checked. -/
lemma headed_of_outcomes {h : Heading} (hchecked : h = .pass ∨ h = .fail) :
    headed h (runItems kind r) = headed h (r.outcomes.map outcomeItem) := by
  rw [headed_runItems]
  rcases hchecked with rfl | rfl <;>
    rw [headed_discovered_other (by decide) (by decide) (by decide),
      headed_summary_other (by decide) (by decide) (by decide) (by decide), ite_self,
      List.append_nil, List.nil_append]

/-- What stands under a heading of the summary. -/
lemma headed_of_summary {h : Heading} (hsummary : h = .success ∨ h = .failed ∨ h = .listed) :
    headed h (runItems kind r) =
      if r.report.filesChecked = 0 then [] else headed h (summaryItems kind r.report) := by
  rw [headed_runItems]
  rcases hsummary with rfl | rfl | rfl <;>
    rw [headed_discovered_other (by decide) (by decide) (by decide),
      headed_outcomes_other (by decide) (by decide), List.append_nil, List.nil_append]

lemma headed_skipping : headed .skipping (runItems kind r) =
    if 0 < r.report.filesIgnored then [skippingItem r.report.filesIgnored] else [] := by
  rw [headed_of_discovered (by simp), discoveredItems, headed_append]
  by_cases hignored : 0 < r.report.filesIgnored <;>
    by_cases hchecked : r.report.filesChecked = 0 <;>
    simp [headed, skippingItem, missingItem, foundItem, hignored, hchecked]

lemma headed_missing : headed .missing (runItems kind r) =
    if r.report.filesChecked = 0 then [missingItem kind] else [] := by
  rw [headed_of_discovered (by simp), discoveredItems, headed_append]
  by_cases hignored : 0 < r.report.filesIgnored <;>
    by_cases hchecked : r.report.filesChecked = 0 <;>
    simp [headed, skippingItem, missingItem, foundItem, hignored, hchecked]

lemma headed_pass : headed .pass (runItems kind r) =
    (r.outcomes.filter Outcome.passed).map passItem := by
  rw [headed_of_outcomes (by simp), headed_outcomes_pass]

lemma headed_fail : headed .fail (runItems kind r) = r.report.failures.map failItem := by
  rw [headed_of_outcomes (by simp), headed_outcomes_fail]
  rfl

lemma headed_success : headed .success (runItems kind r) =
    if r.report.filesChecked ≠ 0 ∧ r.report.failures = [] then
      [successItem kind r.report.filesChecked]
    else [] := by
  rw [headed_of_summary (by simp), headed_summaryItems (by decide)]
  by_cases hchecked : r.report.filesChecked = 0 <;> by_cases hfailures : r.report.failures = [] <;>
    simp [hchecked, hfailures, headed, successItem, failedItem]

/-- Where nothing is checked nothing fails. -/
lemma filesChecked_ne_zero (hlength : r.outcomes.length = r.report.filesChecked)
    (hfailures : r.report.failures ≠ []) : r.report.filesChecked ≠ 0 := by
  intro hchecked
  have hnil : r.outcomes = [] := List.eq_nil_of_length_eq_zero (hlength.trans hchecked)
  exact hfailures (by rw [Run.report, hnil]; rfl)

lemma headed_failed (hlength : r.outcomes.length = r.report.filesChecked) :
    headed .failed (runItems kind r) =
      if r.report.failures ≠ [] then [failedItem r.report.failures.length] else [] := by
  rw [headed_of_summary (by simp), headed_summaryItems (by decide)]
  by_cases hfailures : r.report.failures = []
  · simp [hfailures, headed, successItem]
  · have hchecked := filesChecked_ne_zero hlength hfailures
    simp [hfailures, hchecked, headed, failedItem]

lemma headed_listed (hlength : r.outcomes.length = r.report.filesChecked) :
    headed .listed (runItems kind r) = r.report.failures.map listedItem := by
  rw [headed_of_summary (by simp), headed_summaryItems (by decide)]
  by_cases hfailures : r.report.failures = []
  · simp [hfailures, headed, successItem]
  · have hchecked := filesChecked_ne_zero hlength hfailures
    simp [hfailures, hchecked, headed, failedItem]

end

/-! ### Items, report and exit code -/

/-- The items that are printed of a run agree with its report and with its exit code. -/
structure ItemsAgree [CharacterNames] (fs : FileSystem) (r : Run) (styled : Bool) (kind : String)
    (items : List String) : Prop where
  items_eq : ∃ outcomes, List.Forall₂ (TellsOf fs) r.discovered.candidates outcomes ∧
    outcomes.length = r.report.filesChecked ∧
    items = discoveredLines kind r.report.filesChecked r.report.filesIgnored ++
      outcomes.map (outcomeLine styled) ++
      if r.report.filesChecked = 0 then [] else summaryLines styled kind r.report
  success_iff : Says styled .success items ↔ 0 < r.report.filesChecked ∧ r.report.exitCode = 0
  failed_iff : Says styled .failed items ↔ r.report.exitCode = 1
  success_counts : ∀ item ∈ items, Begins (Heading.success.text styled) item →
    item = Tone.good.paint styled "SUCCESS:" ++ " All " ++
      toString (under styled .pass items).length ++ " " ++ kind ++
      " file(s) passed syntax check!" ∧
    under styled .fail items = []
  failed_counts : ∀ item ∈ items, Begins (Heading.failed.text styled) item →
    item = Tone.bad.paint styled "FAILED:" ++ " " ++
      toString (under styled .fail items).length ++ " file(s) have syntax errors:"
  failures_told : under styled .fail items =
    r.report.failures.map fun f => outcomeLine styled ⟨f.path, some f.message⟩
  failures_listed : under styled .listed items =
    r.report.failures.map fun f => "  - " ++ f.path ++ ": " ++ f.message
  missing_iff : Says styled .missing items ↔ r.report.filesChecked = 0
  missing_ends : Says styled .missing items → r.report.exitCode = 0
  skipping_iff : ∀ n, "Skipping " ++ toString n ++ " ignored file(s)." ∈ items ↔
    n = r.report.filesIgnored ∧ 0 < n
  skipping_first : ∀ item ∈ items, Begins (Heading.skipping.text styled) item →
    ∃ rest, items = item :: rest ∧ ¬ Says styled .skipping rest

lemma mem_under_iff {styled : Bool} {h : Heading} {items : List String} {item : String} :
    item ∈ under styled h items ↔ item ∈ items ∧ Begins (h.text styled) item := by
  rw [under, List.mem_filter, decide_eq_true_iff]

lemma toString_injective {m n : Nat} (h : toString m = toString n) : m = n := by
  rw [Nat.toString_eq_repr, Nat.toString_eq_repr] at h
  have hdigits : Nat.toDigits 10 m = Nat.toDigits 10 n := by
    rw [← Nat.toList_repr, h, Nat.toList_repr]
  rw [← @Nat.ofDigitChars_ten_toDigits m, hdigits, Nat.ofDigitChars_ten_toDigits]

lemma line_skippingItem (styled : Bool) (n : Nat) :
    (skippingItem n).line styled = "Skipping " ++ toString n ++ " ignored file(s)." := by
  rw [Item.line, skippingItem, String.append_assoc]
  rfl

lemma line_skippingItem_inj {styled : Bool} {m n : Nat}
    (h : (skippingItem m).line styled = (skippingItem n).line styled) : m = n := by
  rw [line_skippingItem, line_skippingItem, String.append_left_inj, String.append_right_inj] at h
  exact toString_injective h

lemma filter_passed {outcomes : List Outcome} (h : outcomes.filterMap Run.failure? = []) :
    outcomes.filter Outcome.passed = outcomes := by
  rw [List.filterMap_eq_nil_iff] at h
  rw [List.filter_eq_self]
  exact fun o ho => (failure_none_iff o).mp (h o ho)

lemma exitCode_eq_one_iff (r : Run) : r.report.exitCode = 1 ↔ r.report.failures ≠ [] := by
  have hzero := exitCode_eq_zero_iff r.report
  rw [passed_iff_failures_nil] at hzero
  rcases exitCode_le_one r.report with h | h
  · simp [h, hzero.mp h]
  · simp [h, ← hzero]

section

variable {fs : FileSystem} {r : Run} {styled : Bool} {kind : String}

lemma says_lines_iff {h : Heading} {items : List Item} :
    Says styled h (items.map (Item.line styled)) ↔ headed h items ≠ [] := by
  rw [says_iff_under_ne_nil, under_lines, ne_eq, List.map_eq_nil_iff]

lemma line_failItem (f : Failure) :
    (failItem f).line styled = outcomeLine styled ⟨f.path, some f.message⟩ := by
  simp [Item.line, failItem, outcomeLine, Heading.text, String.append_assoc]

lemma line_listedItem (f : Failure) :
    (listedItem f).line styled = "  - " ++ f.path ++ ": " ++ f.message := by
  simp [Item.line, listedItem, Heading.text, String.append_assoc]

section

variable {c : Prop} [Decidable c] {h : Heading} {items : List Item} {i : Item}

/-- An item stands under a heading of its own exactly if there is reason for it. -/
lemma says_iff_of_headed (hheaded : headed h items = if c then [i] else []) :
    Says styled h (items.map (Item.line styled)) ↔ c := by
  rw [says_lines_iff, hheaded]
  by_cases hc : c <;> simp [hc]

lemma eq_of_headed (hheaded : headed h items = if c then [i] else []) {item : String}
    (hmem : item ∈ items.map (Item.line styled)) (hbegins : Begins (h.text styled) item) :
    c ∧ item = i.line styled := by
  have hc : c := (says_iff_of_headed hheaded).mp ⟨item, hmem, hbegins⟩
  have hunder := mem_under_iff.mpr ⟨hmem, hbegins⟩
  rw [under_lines, hheaded, if_pos hc] at hunder
  exact ⟨hc, List.mem_singleton.mp hunder⟩

lemma mem_of_headed (hheaded : headed h items = if c then [i] else []) (hc : c) :
    i.line styled ∈ items.map (Item.line styled) := by
  have hmem : i ∈ headed h items := by
    rw [hheaded, if_pos hc]
    exact List.mem_singleton_self i
  exact List.mem_map_of_mem (List.mem_of_mem_filter hmem)

end

lemma length_headed_pass (hlength : r.outcomes.length = r.report.filesChecked)
    (hnone : r.report.failures = []) :
    (headed .pass (runItems kind r)).length = r.report.filesChecked := by
  rw [headed_pass, List.length_map, filter_passed hnone, hlength]

/-- If files are skipped, this is said first and not again. -/
lemma runItems_of_skipping (hignored : 0 < r.report.filesIgnored) :
    ∃ rest, runItems kind r = skippingItem r.report.filesIgnored :: rest ∧
      headed .skipping rest = [] := by
  have hone := @headed_skipping r kind
  obtain ⟨rest, hrest⟩ : ∃ rest, runItems kind r = skippingItem r.report.filesIgnored :: rest := by
    rw [runItems, discoveredItems, if_pos hignored]
    exact ⟨_, rfl⟩
  refine ⟨rest, hrest, ?_⟩
  rw [if_pos hignored, hrest] at hone
  simpa [headed, skippingItem] using hone

lemma itemsAgree_of_protocol [CharacterNames] (hlength : r.outcomes.length = r.report.filesChecked)
    (htell : List.Forall₂ (TellsOf fs) r.discovered.candidates r.outcomes) (extension : String) :
    ItemsAgree fs r styled (fileKind extension) (told .human styled extension r) := by
  rw [told_eq_runItems]
  generalize fileKind extension = kind
  have hfail := @headed_fail r kind
  have hfailed := @headed_failed r kind hlength
  have hone := exitCode_eq_one_iff r
  have hzero : r.report.exitCode = 0 ↔ r.report.failures = [] := by
    rw [exitCode_eq_zero_iff, passed_iff_failures_nil]
  constructor
  case items_eq => exact ⟨r.outcomes, htell, hlength, lines_runItems styled kind r⟩
  case success_iff =>
    rw [says_iff_of_headed headed_success, hzero, Nat.pos_iff_ne_zero]
  case failed_iff => rw [says_iff_of_headed hfailed, hone]
  case success_counts =>
    intro item hmem hbegins
    obtain ⟨⟨-, hnone⟩, rfl⟩ := eq_of_headed headed_success hmem hbegins
    rw [under_lines, under_lines, List.length_map, length_headed_pass hlength hnone, hfail, hnone]
    exact ⟨by simp [Item.line, successItem, Heading.text, String.append_assoc], rfl⟩
  case failed_counts =>
    intro item hmem hbegins
    obtain ⟨-, rfl⟩ := eq_of_headed hfailed hmem hbegins
    rw [under_lines, List.length_map, hfail, List.length_map]
    simp [Item.line, failedItem, Heading.text, String.append_assoc]
  case failures_told =>
    rw [under_lines, hfail, List.map_map]
    exact List.map_congr_left fun f _ => line_failItem f
  case failures_listed =>
    rw [under_lines, headed_listed hlength, List.map_map]
    exact List.map_congr_left fun f _ => line_listedItem f
  case missing_iff => exact says_iff_of_headed headed_missing
  case missing_ends =>
    intro htold
    have hchecked : r.report.filesChecked = 0 := (says_iff_of_headed headed_missing).mp htold
    by_contra hcode
    exact filesChecked_ne_zero hlength (mt hzero.mpr hcode) hchecked
  case skipping_iff =>
    intro n
    rw [← line_skippingItem styled]
    constructor
    · intro hmem
      obtain ⟨hignored, hline⟩ := eq_of_headed headed_skipping hmem (begins_append _ _)
      obtain rfl := line_skippingItem_inj hline
      exact ⟨rfl, hignored⟩
    · rintro ⟨rfl, hignored⟩
      exact mem_of_headed headed_skipping hignored
  case skipping_first =>
    intro item hmem hbegins
    obtain ⟨hignored, rfl⟩ := eq_of_headed headed_skipping hmem hbegins
    obtain ⟨rest, hrest, hnone⟩ := @runItems_of_skipping r kind hignored
    refine ⟨rest.map (Item.line styled), by rw [hrest]; rfl, ?_⟩
    rw [says_lines_iff, not_not]
    exact hnone

end

/-! ### Runs -/

section

variable [CharacterNames]

/-- The command line prints what a reporter prints that is told of the run. -/
lemma stdout_eq_told {fs : FileSystem} (env : CommandLine.Environment)
    {o : CommandLine.Options}
    {settings : Settings} {r : Run} (hstart : o.start fs = .ok (settings, r)) :
    (o.execute fs env).stdout = unlines
      (told (if o.json then .json else .human) (o.styled env) settings.extension r) := by
  rw [CommandLine.Options.execute, hstart]

lemma code_eq_exitCode {fs : FileSystem} (env : CommandLine.Environment)
    {o : CommandLine.Options}
    {settings : Settings} {r : Run} (hstart : o.start fs = .ok (settings, r)) :
    (o.execute fs env).code = r.report.exitCode := by
  rw [CommandLine.Options.execute, hstart]

/-- What a reporter prints while a run goes on, what it prints when the run is over, and how the
program ends tell the same of every run, and the command line prints nothing else. -/
theorem printed_items_agree (fs : FileSystem) (root : String) (settings : Settings)
    (r : Run) (hrun : run fs root settings = .ok r) :
    (∀ styled extension, ItemsAgree fs r styled (fileKind extension)
      (told .human styled extension r)) ∧
    ∀ env words o, CommandLine.parseArguments words = .ok (.run o) →
      o.start fs = .ok (settings, r) → o.json = false →
      (CommandLine.execute fs env words).stdout =
          unlines (told .human (o.styled env) settings.extension r) ∧
        (CommandLine.execute fs env words).code = r.report.exitCode := by
  constructor
  · intro styled extension
    obtain ⟨place, rfl⟩ := eq_ofRoot_of_run hrun
    have hlength := congrArg List.length (outcomes_eq_map fs place settings)
    rw [List.length_map] at hlength
    refine itemsAgree_of_protocol hlength ?_ extension
    rw [outcomes_eq_map, List.forall₂_map_right_iff, List.forall₂_same]
    exact fun c _ => tellsOf_outcome fs c
  · intro env words o hwords hstart hjson
    rw [execute_eq env hwords, stdout_eq_told env hstart, code_eq_exitCode env hstart, hjson]
    exact ⟨rfl, rfl⟩

end

theorem printed_items_agree_mixedFiles :
    run mixedFiles "." .default = .ok (Run.ofRoot mixedFiles ["p"] .default) ∧
    CommandLine.parseArguments [] = .ok (.run {}) ∧
    CommandLine.Options.start mixedFiles {} =
      .ok (.default, Run.ofRoot mixedFiles ["p"] .default) ∧
    ItemsAgree mixedFiles (Run.ofRoot mixedFiles ["p"] .default) true "Python"
      (told .human true "py" (Run.ofRoot mixedFiles ["p"] .default)) ∧
    (CommandLine.execute mixedFiles [("CLICOLOR_FORCE", "1")] []).stdout =
      unlines (told .human true "py" (Run.ofRoot mixedFiles ["p"] .default)) := by
  have hrun : run mixedFiles "." .default = .ok (Run.ofRoot mixedFiles ["p"] .default) :=
    run_of_resolveRoot rfl .default
  have hstart : CommandLine.Options.start mixedFiles {} =
      .ok (.default, Run.ofRoot mixedFiles ["p"] .default) := rfl
  obtain ⟨hitems, hprinted⟩ := printed_items_agree mixedFiles "." .default _ hrun
  exact ⟨hrun, rfl, hstart, hitems true "py",
    (hprinted [("CLICOLOR_FORCE", "1")] [] {} rfl hstart rfl).1⟩

end SyntaxCheck.Proofs
