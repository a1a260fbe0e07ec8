import CertSync.Proofs.Metrics.Family
import CertSync.Proofs.Metrics.Text
import CertSync.Proofs.Session.Record
import CertSync.Proofs.Traversal

/-!
# Metrics over a history

Whatever the order in which attempts were recorded and metrics were registered, the text tells of
each attempted operation how often it was attempted and how often that failed. It does so just if
no two of the attempted operations share a hash, as no operations of hooks do.
-/

namespace CertSync

inductive MetricStep where
  | register
  | record (entry : ApiRecord)

/-- What is counted of an attempt. -/
structure MetricEntry where
  labels : MetricLabels
  failed : Bool
deriving DecidableEq

namespace MetricStep

def entry? : MetricStep → Option MetricEntry
  | register => none
  | record entry => some ⟨⟨entry.type, entry.name⟩, entry.error.isSome⟩

def isRegister : MetricStep → Bool
  | register => true
  | record _ => false

/-- The attempts that are counted: with metrics turned off, none. -/
def counted (config : Config) (steps : List MetricStep) : List MetricEntry :=
  if config.enableMetrics then steps.filterMap entry? else []

end MetricStep

namespace MetricEntry

def attempted (entries : List MetricEntry) : List MetricLabels := entries.map labels

def failures (entries : List MetricEntry) : List MetricLabels :=
  (entries.filter failed).map labels

theorem failures_sublist (entries : List MetricEntry) :
    (failures entries).Sublist (attempted entries) :=
  List.filter_sublist.map _

end MetricEntry

open MetricFamily (ofLabels ofLabels_snoc Apart)
open MetricStep (counted)
open MetricEntry (attempted failures failures_sublist)

namespace Metrics

variable {config : Config} {steps : List MetricStep} {entries entries' : List MetricEntry}
  {registered : Bool}

def next (config : Config) (m : Metrics) : MetricStep → Metrics
  | .register => m.register
  | .record entry => m.recordUnder config entry

def after (config : Config) (steps : List MetricStep) : Metrics := steps.foldl (next config) {}

/-- Metrics that counted these attempts. -/
def ofEntries (registered : Bool) (entries : List MetricEntry) : Metrics :=
  ⟨registered, ofLabels (attempted entries), ofLabels (failures entries)⟩

/-! ## Steps and runs -/

theorem recordUnder_disabled (h : config.enableMetrics = false) (m : Metrics) (entry : ApiRecord) :
    m.recordUnder config entry = m := by
  simp [recordUnder, h]

theorem record_ofEntries (registered : Bool) (entries : List MetricEntry) (entry : MetricEntry) :
    (ofEntries registered entries).record entry.labels entry.failed =
      ofEntries registered (entries ++ [entry]) := by
  cases hfailed : entry.failed <;>
    simp [record, ofEntries, attempted, failures, hfailed, ofLabels_snoc]

theorem next_ofEntries (config : Config) (registered : Bool) (entries : List MetricEntry)
    (step : MetricStep) :
    next config (ofEntries registered entries) step =
      ofEntries (registered || step.isRegister) (entries ++ counted config [step]) := by
  cases step with
  | register =>
    have hnone : counted config [.register] = [] := by
      unfold counted
      split_ifs <;> rfl
    simp [next, register, ofEntries, hnone, MetricStep.isRegister]
  | record entry =>
    cases hmetrics : config.enableMetrics with
    | false =>
      simp [next, recordUnder_disabled hmetrics, counted, hmetrics, MetricStep.isRegister]
    | true =>
      simpa [next, recordUnder, hmetrics, counted, MetricStep.entry?, MetricStep.isRegister] using
        record_ofEntries registered entries ⟨⟨entry.type, entry.name⟩, entry.error.isSome⟩

theorem after_eq (config : Config) (steps : List MetricStep) :
    after config steps = ofEntries (steps.any MetricStep.isRegister) (counted config steps) := by
  induction steps using List.reverseRecOn with
  | nil => simp [after, ofEntries, counted, attempted, failures, ofLabels]
  | append_singleton steps step ih =>
    have hafter : after config (steps ++ [step]) = next config (after config steps) step :=
      List.foldl_append
    have hcounted : counted config (steps ++ [step]) =
        counted config steps ++ counted config [step] := by
      unfold counted
      split_ifs
      · exact List.filterMap_append
      · rfl
    rw [hafter, ih, next_ofEntries, hcounted]
    simp

/-! ## What the text tells -/

/-- What the text is to tell once metrics were registered, and these attempts counted. -/
structure Tells (lines : List String) (registered : Bool) (entries : List MetricEntry) : Prop where
  calls : ∀ labels value, sample callsName ⟨labels, value⟩ ∈ lines ↔
    registered ∧ labels ∈ attempted entries ∧ value = (attempted entries).count labels
  errors : ∀ labels value, sample errorsName ⟨labels, value⟩ ∈ lines ↔
    registered ∧ labels ∈ failures entries ∧ value = (failures entries).count labels
  bounded : ∀ labels errors, sample errorsName ⟨labels, errors⟩ ∈ lines →
    ∃ calls, errors ≤ calls ∧ sample callsName ⟨labels, calls⟩ ∈ lines
  complete : ∀ line ∈ lines, line.toList.head? = some '#' ∨
    ∃ count, line = sample callsName count ∨ line = sample errorsName count
  nodup : lines.Nodup
  separate : ∀ line ∈ lines, '\n' ∉ line.toList

/-- The text tells each number just if the attempted operations are told apart. -/
theorem tells_iff :
    Tells (ofEntries registered entries).lines registered entries ↔
      (registered → Apart (attempted entries)) := by
  constructor
  · intro h hregistered
    refine MetricFamily.apart_iff.mpr fun labels hmem => ?_
    exact (calls_sample_mem_lines.mp ((h.calls _ _).mpr ⟨hregistered, hmem, rfl⟩)).2
  · intro h
    have hfailures : registered → Apart (failures entries) :=
      fun hregistered => (h hregistered).subset (failures_sublist entries).subset
    have hcalls : ∀ labels value,
        sample callsName ⟨labels, value⟩ ∈ (ofEntries registered entries).lines ↔
          registered ∧ labels ∈ attempted entries ∧ value = (attempted entries).count labels :=
      fun labels value => calls_sample_mem_lines.trans <|
        and_congr_right fun hregistered => (h hregistered).mem_counts
    have herrors : ∀ labels value,
        sample errorsName ⟨labels, value⟩ ∈ (ofEntries registered entries).lines ↔
          registered ∧ labels ∈ failures entries ∧ value = (failures entries).count labels :=
      fun labels value => errors_sample_mem_lines.trans <|
        and_congr_right fun hregistered => (hfailures hregistered).mem_counts
    refine ⟨hcalls, herrors, fun labels errors hsample => ?_, fun line => heading_or_sample,
      lines_nodup MetricFamily.counts_nodup MetricFamily.counts_nodup,
      fun line => newline_not_mem_line⟩
    obtain ⟨hregistered, hmem, rfl⟩ := (herrors _ _).mp hsample
    exact ⟨_, (failures_sublist entries).count_le _, (hcalls _ _).mpr
      ⟨hregistered, (failures_sublist entries).subset hmem, rfl⟩⟩

theorem ofEntries_perm (h : Apart (attempted entries)) (hperm : entries.Perm entries') :
    ofEntries registered entries = ofEntries registered entries' := by
  have hfailures := h.subset (failures_sublist entries).subset
  rw [ofEntries, ofEntries, h.ofLabels_perm (hperm.map _),
    hfailures.ofLabels_perm ((hperm.filter _).map _)]
  rfl

/-- What the text of metrics promises: labels are never mixed up in it, attempts leave it alone once
metrics are turned off, and otherwise it tells all numbers, and tells nothing of the order in which
it came by them, just if no two different labels that were attempted share a hash. -/
theorem text_faithful_iff (config : Config) (steps : List MetricStep) :
    (∀ (name : String) (count count' : MetricCount),
      sample name count = sample name count' → count = count') ∧
    (config.enableMetrics = false →
      ∀ (m : Metrics) (entry : ApiRecord), (m.recordUnder config entry).lines = m.lines) ∧
    ((Tells (after config steps).lines (steps.any MetricStep.isRegister) (counted config steps) ∧
        ∀ steps', (steps'.any MetricStep.isRegister = steps.any MetricStep.isRegister) →
          (counted config steps').Perm (counted config steps) →
          (after config steps').lines = (after config steps).lines) ↔
      (steps.any MetricStep.isRegister → Apart (attempted (counted config steps)))) := by
  refine ⟨fun _ _ _ => sample_inj.mp, fun h m entry => by rw [recordUnder_disabled h], ?_⟩
  rw [after_eq, tells_iff]
  refine ⟨And.left, fun h => ⟨h, fun steps' hregister hperm => ?_⟩⟩
  rw [after_eq, hregister]
  cases hregistered : steps.any MetricStep.isRegister with
  | false => rfl
  | true => rw [← ofEntries_perm (h hregistered) hperm.symm]

/-- An import that fails before metrics are registered, and succeeds after. In between there is an
operation whose name is not written as it is. -/
def retriedImport : List MetricStep :=
  [.record ⟨"CREATE", "ImportCertificate", some ⟨"throttled", []⟩⟩, .register,
    .record ⟨"UPDATE", "two\n\"lines\"", none⟩, .record ⟨"CREATE", "ImportCertificate", none⟩]

theorem retriedImport_faithful :
    Tells (after {} retriedImport).lines true (counted {} retriedImport) ∧
      (sample callsName ⟨⟨"CREATE", "ImportCertificate"⟩, 2⟩ ∈ (after {} retriedImport).lines ∧
        sample errorsName ⟨⟨"CREATE", "ImportCertificate"⟩, 1⟩ ∈ (after {} retriedImport).lines ∧
        sample callsName ⟨⟨"UPDATE", "two\n\"lines\""⟩, 1⟩ ∈ (after {} retriedImport).lines) ∧
      sample callsName ⟨⟨"UPDATE", "two\n\"lines\""⟩, 1⟩ ≠
        sample callsName ⟨⟨"UPDATE", "two\\n\"lines\""⟩, 1⟩ ∧
      (after {} retriedImport.reverse).lines = (after {} retriedImport).lines ∧
      ((after {} retriedImport).recordUnder { enableMetrics := false }
        ⟨"CREATE", "ImportCertificate", none⟩).lines = (after {} retriedImport).lines := by
  obtain ⟨hdistinct, -, hfaithful⟩ := text_faithful_iff {} retriedImport
  obtain ⟨htells, hsame⟩ := hfaithful.mpr fun _ => by decide +kernel
  refine ⟨htells, ⟨?_, ?_, ?_⟩, fun h => ?_, hsame _ rfl (by decide), ?_⟩
  · exact (htells.calls _ _).mpr ⟨rfl, by decide, by decide⟩
  · exact (htells.errors _ _).mpr ⟨rfl, by decide, by decide⟩
  · exact (htells.calls _ _).mpr ⟨rfl, by decide, by decide⟩
  · exact absurd (hdistinct _ _ _ h) (by decide)
  · exact (text_faithful_iff { enableMetrics := false } retriedImport).2.1 rfl _ _

/-- Two operations whose labels are the same text once they are run together. -/
def runTogether : List MetricStep :=
  [.register, .record ⟨"ab", "c", none⟩, .record ⟨"a", "bc", none⟩]

/-- Both are counted under the labels that came first. -/
theorem runTogether_mixed :
    (after {} runTogether).lines =
        [s!"# HELP {callsName} {callsHelp}", s!"# TYPE {callsName} counter",
          sample callsName ⟨⟨"ab", "c"⟩, 2⟩] ∧
      sample callsName ⟨⟨"ab", "c"⟩, 1⟩ ∉ (after {} runTogether).lines ∧
      sample callsName ⟨⟨"a", "bc"⟩, 1⟩ ∉ (after {} runTogether).lines ∧
      (after {} runTogether.reverse).lines ≠ (after {} runTogether).lines := by
  decide +kernel

/-! ## What hooks record -/

/-- The labels of all operations that hooks call. -/
def serviceLabels : List MetricLabels := [
  ⟨"CREATE", "ImportCertificate"⟩, ⟨"READ_ONE", "ExportCertificate"⟩,
  ⟨"UPDATE", "AddTagsToCertificate"⟩, ⟨"UPDATE", "RemoveTagsFromCertificate"⟩,
  ⟨"GET", "ListTagsForCertificate"⟩]

theorem serviceLabels_apart : Apart serviceLabels := by decide +kernel

theorem mem_serviceLabels {c : ServiceCall} {type name : String} (h : c.RecordedAs type name) :
    ⟨type, name⟩ ∈ serviceLabels := by
  cases h <;> simp [serviceLabels]

theorem labels_of_run {σ α : Type} {world : Collaborators σ} {hook : Hook α} (h : hook.Accounts)
    {s : Session σ} (hs : s.records = []) {entry : ApiRecord}
    (hentry : entry ∈ (Session.run world hook s).2.records) :
    ⟨entry.type, entry.name⟩ ∈ serviceLabels := by
  obtain ⟨entries, hrecords, hentries⟩ := Session.run_records world h s
  rw [hrecords, hs, List.nil_append] at hentry
  obtain ⟨attempt, -, hdocumented⟩ := exists_of_mem_right hentries hentry
  exact mem_serviceLabels hdocumented.call

/-- However runs of hooks come together and whatever they meet, the text tells all that they
recorded. -/
theorem tells_of_runs
    (h : ∀ entry, .record entry ∈ steps → ∃ (σ α : Type) (world : Collaborators σ) (hook : Hook α)
      (s : Session σ), hook.Accounts ∧ s.records = [] ∧
        entry ∈ (Session.run world hook s).2.records) :
    Tells (after config steps).lines (steps.any MetricStep.isRegister) (counted config steps) := by
  rw [after_eq, tells_iff]
  refine fun _ => serviceLabels_apart.subset fun labels hlabels => ?_
  obtain ⟨entry, hentry, rfl⟩ := List.mem_map.mp hlabels
  unfold counted at hentry
  split_ifs at hentry
  · obtain ⟨step, hstep, hsome⟩ := List.mem_filterMap.mp hentry
    cases step with
    | register => cases hsome
    | record recorded =>
      cases hsome
      obtain ⟨σ, α, world, hook, s, haccounts, hs, hrecorded⟩ := h recorded hstep
      exact labels_of_run haccounts hs hrecorded
  · cases hentry

end Metrics

end CertSync
