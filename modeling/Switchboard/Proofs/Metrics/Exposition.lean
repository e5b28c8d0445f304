import Mathlib.Data.List.Basic
import Switchboard.Proofs.Decimal.Whole
import Switchboard.Proofs.Metrics.Agreement

/-!
# What a scraper reads

Every line of an exposition begins in one of nine ways, none of which begins
another one, so that a line shows what it is about.  Behind the beginning stand
a label, where the family has one, and a value, and a count below `2 ^ 53` is
written with its own digits.
-/

namespace Switchboard

namespace Collectors

/-- How a line begins. -/
inductive Head where
  | help
  | type
  | listenerFailures
  | notification
  | bucket
  | sum
  | count
  | inFlight
  | request
  deriving DecidableEq

def Head.text : Head → String
  | .help => "# HELP "
  | .type => "# TYPE "
  | .listenerFailures => "rpc_listener_panics_total "
  | .notification => "rpc_notifications_total\x7bresult=\""
  | .bucket => "rpc_reply_latency_seconds_bucket\x7ble=\""
  | .sum => "rpc_reply_latency_seconds_sum "
  | .count => "rpc_reply_latency_seconds_count "
  | .inFlight => "rpc_requests_in_flight "
  | .request => "rpc_requests_total\x7boutcome=\""

/-- How a line begins that shows a labelled sample. -/
def Head.ofLabelling : Labelling → Head
  | .outcome => .request
  | .result => .notification

private theorem Head.eq_of_prefix {first second : Head}
    (reaches : first.text.toList <+: second.text.toList) : first = second := by
  revert reaches
  cases first <;> cases second <;> decide

/-- A line begins in one way only. -/
theorem Head.append_inj {first second : Head} {rest other : String}
    (same : first.text ++ rest = second.text ++ other) :
    first = second ∧ rest = other := by
  have letters : first.text.toList ++ rest.toList =
      second.text.toList ++ other.toList := by
    rw [← String.toList_append, same, String.toList_append]
  have head : first = second := by
    rcases List.prefix_or_prefix_of_prefix
      (List.prefix_append first.text.toList rest.toList)
      (letters ▸ List.prefix_append second.text.toList other.toList) with
      reaches | reaches
    · exact Head.eq_of_prefix reaches
    · exact (Head.eq_of_prefix reaches).symm
  subst head
  exact ⟨rfl, String.toList_inj.mp (List.append_cancel_left letters)⟩

/-- A line in its two parts. -/
abbrev Entry := Head × String

def Entry.line (entry : Entry) : String :=
  entry.1.text ++ entry.2

def headingEntries (family : Family) : List Entry :=
  [(.help, family.name ++ " " ++ family.help),
    (.type, family.name ++ " " ++ family.kind)]

/-- A label and a value behind the beginning of a line. -/
def labelledText (label value : String) : String :=
  label ++ "\"\x7d " ++ value

def sampleEntries (family : Family) (head : Head) (samples : Samples) :
    List Entry :=
  if samples.isEmpty then
    []
  else
    headingEntries family ++ samples.map fun sample =>
      (head, labelledText sample.1 (sampleText sample.2.toFloat))

def histogramEntries (histogram : Histogram) : List Entry :=
  headingEntries latencyFamily ++
    (histogram.cumulative.map fun bucket =>
      (.bucket, labelledText (sampleText bucket.1)
        (sampleText bucket.2.toFloat))) ++
    [(.bucket, labelledText "+Inf" (sampleText histogram.count.toFloat)),
      (.sum, sampleText histogram.sum),
      (.count, sampleText histogram.count.toFloat)]

/-- The lines of an exposition in their parts. -/
def entries (collectors : Collectors) : List Entry :=
  headingEntries listenerFailuresFamily ++
    [(.listenerFailures, sampleText collectors.listenerFailures.toFloat)] ++
    sampleEntries notificationsFamily .notification collectors.notifications ++
    histogramEntries collectors.latency ++
    headingEntries inFlightFamily ++
    [(.inFlight, sampleText (levelValue collectors.inFlight))] ++
    sampleEntries requestsFamily .request collectors.requests

theorem heading_eq (family : Family) :
    family.heading = (headingEntries family).map Entry.line := by
  simp only [Family.heading, headingEntries, List.map_cons, List.map_nil,
    Entry.line, Head.text, String.append_assoc]

theorem exposeSingle_eq {family : Family} {head : Head}
    (begins : head.text = family.name ++ " ") (value : Float) :
    exposeSingle family value =
      (headingEntries family ++ [(head, sampleText value)]).map
        Entry.line := by
  simp only [exposeSingle, heading_eq, List.map_append, List.map_cons,
    List.map_nil, Entry.line, begins]

theorem labelled_eq {name label : String} {head : Head}
    (begins : head.text = name ++ "\x7b" ++ label ++ "=\"") (text : String)
    (value : Float) :
    labelled name label text value =
      Entry.line (head, labelledText text (sampleText value)) := by
  simp only [labelled, Entry.line, labelledText, begins, String.append_assoc]

private theorem exposeSamples_eq
    {family : Family} {label : String} {head : Head}
    (begins : head.text = family.name ++ "\x7b" ++ label ++ "=\"")
    (samples : Samples) :
    exposeSamples family label samples =
      (sampleEntries family head samples).map Entry.line := by
  unfold exposeSamples sampleEntries
  split
  · rfl
  · simp only [heading_eq, List.map_append, List.map_map, labelled_eq begins,
      Function.comp_def]

private theorem exposeHistogram_eq (histogram : Histogram) :
    exposeHistogram latencyFamily histogram =
      (histogramEntries histogram).map Entry.line := by
  have bucket : Head.bucket.text =
      latencyFamily.name ++ "_bucket" ++ "\x7b" ++ "le" ++ "=\"" := rfl
  have sum : latencyFamily.name ++ "_sum " = Head.sum.text := rfl
  have count : latencyFamily.name ++ "_count " = Head.count.text := rfl
  simp only [exposeHistogram, histogramEntries, labelled_eq bucket, heading_eq,
    sum, count, List.map_append, List.map_map, Function.comp_def,
    List.map_cons, List.map_nil, Entry.line]

theorem expose_eq (collectors : Collectors) :
    collectors.expose = collectors.entries.map Entry.line := by
  have listenerFailures : Head.listenerFailures.text =
      listenerFailuresFamily.name ++ " " := rfl
  have notification : Head.notification.text =
      notificationsFamily.name ++ "\x7b" ++ "result" ++ "=\"" := rfl
  have inFlight : Head.inFlight.text = inFlightFamily.name ++ " " := rfl
  have request : Head.request.text =
      requestsFamily.name ++ "\x7b" ++ "outcome" ++ "=\"" := rfl
  simp only [expose, entries, exposeSingle_eq listenerFailures,
    exposeSamples_eq notification, exposeHistogram_eq, exposeSingle_eq inFlight,
    exposeSamples_eq request, List.map_append, List.append_assoc]

theorem line_mem_expose {collectors : Collectors} {entry : Entry} :
    entry.line ∈ collectors.expose ↔ entry ∈ collectors.entries := by
  rw [expose_eq, List.mem_map]
  constructor
  · rintro ⟨other, member, same⟩
    obtain ⟨head, rest⟩ := Head.append_inj same
    rwa [← Prod.ext head rest]
  · intro member
    exact ⟨entry, member, rfl⟩

theorem mem_sampleEntries {family : Family} {head other : Head}
    {samples : Samples} {text : String} (help : other ≠ .help)
    (type : other ≠ .type) :
    (other, text) ∈ sampleEntries family head samples ↔
      other = head ∧ ∃ sample ∈ samples,
        text = labelledText sample.1 (sampleText sample.2.toFloat) := by
  unfold sampleEntries
  split
  case isTrue empty => simp [List.isEmpty_iff.mp empty]
  case isFalse =>
      rw [List.mem_append, List.mem_map]
      constructor
      · rintro (heading | ⟨sample, member, same⟩)
        · simp [headingEntries, help, type] at heading
        · cases same
          exact ⟨rfl, sample, member, rfl⟩
      · rintro ⟨rfl, sample, member, rfl⟩
        exact .inr ⟨sample, member, rfl⟩

section

variable {collectors : Collectors} {text : String}

theorem listenerFailures_mem_entries :
    (.listenerFailures, text) ∈ collectors.entries ↔
      text = sampleText collectors.listenerFailures.toFloat := by
  simp [entries, headingEntries, mem_sampleEntries, histogramEntries]

theorem inFlight_mem_entries :
    (.inFlight, text) ∈ collectors.entries ↔
      text = sampleText (levelValue collectors.inFlight) := by
  simp [entries, headingEntries, mem_sampleEntries, histogramEntries]

theorem count_mem_entries :
    (.count, text) ∈ collectors.entries ↔
      text = sampleText collectors.latency.count.toFloat := by
  simp [entries, headingEntries, mem_sampleEntries, histogramEntries]

theorem sample_mem_entries {labelling : Labelling} :
    (.ofLabelling labelling, text) ∈ collectors.entries ↔
      ∃ sample ∈ collectors.samples labelling,
        text = labelledText sample.1 (sampleText sample.2.toFloat) := by
  cases labelling <;>
    simp [entries, headingEntries, mem_sampleEntries, histogramEntries,
      Head.ofLabelling, samples]

theorem bucket_mem_entries {bucket : Float × UInt64}
    (member : bucket ∈ collectors.latency.cumulative) :
    (.bucket, labelledText (sampleText bucket.1)
      (sampleText bucket.2.toFloat)) ∈ collectors.entries := by
  have shown : (.bucket, labelledText (sampleText bucket.1)
      (sampleText bucket.2.toFloat)) ∈
        histogramEntries collectors.latency := by
    apply List.mem_append_left
    apply List.mem_append_right
    exact List.mem_map_of_mem member
  simp only [entries, List.mem_append, shown, or_true, true_or]

end

/-- The value of a small count is written with the digits of the count. -/
theorem sampleText_toFloat {count : UInt64}
    (small : count.toNat < 9007199254740992) :
    sampleText count.toFloat = toString count := by
  have whole : Decimal.plain.render count.toFloat =
      Nat.toDigits 10 count.toNat ++ Decimal.plain.wholeMark :=
    Decimal.plain.render_toFloat small rfl
  have unmarked : Decimal.plain.wholeMark = [] := rfl
  rw [sampleText, whole, unmarked, List.append_nil]
  exact Nat.toString_eq_ofList_toDigits.symm

theorem sampleText_ofNat {count : Nat} (small : count < 9007199254740992) :
    sampleText (UInt64.ofNat count).toFloat =
      toString (UInt64.ofNat count) := by
  have value : (UInt64.ofNat count).toNat = count :=
    UInt64.toNat_ofNat_of_lt (Nat.lt_trans small (by decide))
  apply sampleText_toFloat
  rwa [value]

theorem levelValue_ofNat {count : Nat} (small : count < 9007199254740992) :
    levelValue (Int64.ofNat count) = (UInt64.ofNat count).toFloat := by
  have signed : (Int64.ofNat count).toInt = count :=
    Int64.toInt_ofNat_of_lt (by omega)
  have nonnegative : ¬Int64.ofNat count < 0 := by
    rw [Int64.lt_iff_toInt_lt, signed]
    exact Int.not_lt.mpr (Int.natCast_nonneg count)
  exact if_neg nonnegative

/-- The parts of a line whose series is a head with a label. -/
theorem line_of_series {series label : String} {head : Head}
    (parts : series ++ " " = head.text ++ (label ++ "\"\x7d "))
    (text : String) :
    series ++ " " ++ text = Entry.line (head, labelledText label text) := by
  rw [parts, Entry.line, labelledText, String.append_assoc]

/-- A quotation mark ends a label. -/
theorem labelledText_inj {label other text value : String}
    (plain : '"' ∉ label.toList) (otherPlain : '"' ∉ other.toList)
    (same : labelledText label text = labelledText other value) :
    label = other ∧ text = value := by
  have letters (first second : String) :
      (labelledText first second).toList =
        first.toList ++ '"' :: '\x7d' :: ' ' :: second.toList := by
    simp [labelledText]
  have front {first : List Char} (ends : '"' ∉ first) (rest : List Char) :
      (first ++ '"' :: rest).takeWhile (· != '"') = first := by
    rw [List.takeWhile_append_of_pos, List.takeWhile_cons_of_neg (by decide),
      List.append_nil]
    intro letter member
    exact bne_iff_ne.mpr (ne_of_mem_of_not_mem member ends)
  have parts := congrArg String.toList same
  rw [letters, letters] at parts
  have labels : label.toList = other.toList := by
    rw [← front plain, parts, front otherPlain]
  rw [labels] at parts
  have texts := List.append_cancel_left parts
  simp only [List.cons.injEq, true_and] at texts
  exact ⟨String.toList_inj.mp labels, String.toList_inj.mp texts⟩

end Collectors

/-- No label has a quotation mark in it. -/
theorem Metric.label?_plain {metric : Metric} {labelling : Labelling}
    {label : String} (named : metric.label? labelling = some label) :
    '"' ∉ label.toList := by
  revert named
  cases labelling <;> cases metric <;> rintro ⟨⟩ <;> decide

/-- The line of a metric of a family is written when the metric was recorded,
and shows its counter. -/
theorem Samples.Keep.exists_labelled {labelling : Labelling}
    {calls : List Measurement} {samples : Samples}
    (keep : Keep labelling calls samples) {metric : Metric} {label : String}
    (named : metric.label? labelling = some label)
    (small : Switchboard.total metric calls < 9007199254740992)
    (text : String) :
    (∃ sample ∈ samples, Collectors.labelledText label text =
      Collectors.labelledText sample.1
        (Collectors.sampleText sample.2.toFloat)) ↔
      Recorded metric calls ∧
        text = toString ((Counters.after calls).get metric) := by
  have value := keep.total metric label named
  have present := keep.present metric label named
  rw [Counters.get_after, ← Collectors.sampleText_ofNat small, ← value,
    ← present]
  constructor
  · rintro ⟨⟨other, amount⟩, member, same⟩
    obtain ⟨owner, otherNamed⟩ := keep.known _ member
    obtain ⟨rfl, rfl⟩ := Collectors.labelledText_inj
      (Metric.label?_plain named) (Metric.label?_plain otherNamed) same
    have found := lookup_of_mem keep.sorted member
    rw [Samples.value, found]
    exact ⟨rfl, rfl⟩
  · rintro ⟨held, rfl⟩
    obtain ⟨amount, found⟩ := Option.isSome_iff_exists.mp held
    obtain ⟨before, behind, form, _⟩ := List.lookup_eq_some_iff.mp found
    refine ⟨(label, amount), ?_, ?_⟩
    · rw [form]
      exact List.mem_append_right _ List.mem_cons_self
    · rw [Samples.value, found]
      rfl

namespace Metric

/-- What stands before the value in the line of a metric. -/
def series : Metric → String
  | .registered => "rpc_requests_total\x7boutcome=\"registered\"\x7d"
  | .completed => "rpc_requests_total\x7boutcome=\"completed\"\x7d"
  | .timedOut => "rpc_requests_total\x7boutcome=\"timed_out\"\x7d"
  | .cancelled => "rpc_requests_total\x7boutcome=\"cancelled\"\x7d"
  | .reaped => "rpc_requests_total\x7boutcome=\"reaped\"\x7d"
  | .lateReply => "rpc_requests_total\x7boutcome=\"late_reply\"\x7d"
  | .enqueued => "rpc_notifications_total\x7bresult=\"enqueued\"\x7d"
  | .dispatched => "rpc_notifications_total\x7bresult=\"dispatched\"\x7d"
  | .unrecognised => "rpc_notifications_total\x7bresult=\"unrecognised\"\x7d"
  | .malformed => "rpc_notifications_total\x7bresult=\"malformed\"\x7d"
  | .listenerFailed => "rpc_listener_panics_total"

variable {metric : Metric} {labelling : Labelling} {label : String}

theorem series_of_label? (named : metric.label? labelling = some label) :
    metric.series ++ " " =
      (Collectors.Head.ofLabelling labelling).text ++
        (label ++ "\"\x7d ") := by
  revert named
  cases labelling <;> cases metric <;> rintro ⟨⟩ <;> rfl

end Metric

namespace Collectors

variable {calls : List Measurement}

/-- What a scraper reads of a metric is its counter. -/
theorem series_mem_expose
    (totals : ∀ metric, total metric calls < 9007199254740992)
    (metric : Metric) (text : String) :
    metric.series ++ " " ++ text ∈ (after calls).expose ↔
      (metric = .listenerFailed ∨ Recorded metric calls) ∧
        text = toString ((Counters.after calls).get metric) := by
  have hold := hold_after calls
  rcases metric.label?_cases with rfl | ⟨apart, labelling, label, named⟩
  · have line : Metric.series .listenerFailed ++ " " ++ text =
        Entry.line (.listenerFailures, text) := rfl
    rw [line, line_mem_expose, listenerFailures_mem_entries,
      hold.listenerFailures, sampleText_ofNat (totals _), Counters.get_after]
    simp only [true_or, true_and]
  · rw [line_of_series (Metric.series_of_label? named), line_mem_expose,
      sample_mem_entries,
      (hold.samples labelling).exists_labelled named (totals metric)]
    simp only [apart, false_or]

theorem inFlight_mem_expose (held : level calls < 9007199254740992)
    (text : String) :
    "rpc_requests_in_flight " ++ text ∈ (after calls).expose ↔
      text = toString (Counters.after calls).inFlight := by
  have line : "rpc_requests_in_flight " ++ text =
      Entry.line (.inFlight, text) := rfl
  rw [line, line_mem_expose, inFlight_mem_entries, (hold_after calls).inFlight,
    levelValue_ofNat held, sampleText_ofNat held, Counters.inFlight_after]

theorem count_mem_expose
    (small : total .completed calls < 9007199254740992) (text : String) :
    "rpc_reply_latency_seconds_count " ++ text ∈ (after calls).expose ↔
      text = toString (Counters.after calls).completed := by
  have line : "rpc_reply_latency_seconds_count " ++ text =
      Entry.line (.count, text) := rfl
  have completed : (Counters.after calls).completed =
      UInt64.ofNat (total .completed calls) :=
    Counters.get_after calls .completed
  rw [line, line_mem_expose, count_mem_entries,
    (hold_after calls).count, sampleText_ofNat small, completed]

theorem bucket_mem_expose
    (small : total .completed calls < 9007199254740992)
    {bucket : Float × UInt64}
    (member : bucket ∈ (after calls).latency.cumulative) :
    "rpc_reply_latency_seconds_bucket\x7ble=\"" ++
        (sampleText bucket.1 ++ "\"\x7d " ++ toString bucket.2) ∈
      (after calls).expose := by
  have hold := hold_after calls
  have within := hold.cumulative_le_count small member
  rw [UInt64.le_iff_toNat_le, hold.toNat_count small] at within
  rw [← sampleText_toFloat (Nat.lt_of_le_of_lt within small)]
  exact line_mem_expose.mpr (bucket_mem_entries member)

end Collectors

/-- Counters are the totals of some measurements, and collectors agree with
them. -/
structure Counters.Agree (counters : Counters) (calls : List Measurement)
    (collectors : Collectors) : Prop where
  totals : ∀ metric, (counters.get metric).toNat = total metric calls
  shown : ∀ metric,
    counters.snapshot.lookup metric.name = some (counters.get metric)
  shownInFlight :
    counters.snapshot.lookup "in_flight" = some counters.inFlight
  /-- A sample that is missing is read as zero. -/
  samples : ∀ {labelling metric label},
    Metric.label? labelling metric = some label →
      (collectors.samples labelling).value label = counters.get metric
  present : ∀ {labelling metric label},
    Metric.label? labelling metric = some label →
      (((collectors.samples labelling).lookup label).isSome = true ↔
        Recorded metric calls)
  known : ∀ labelling, ∀ sample ∈ collectors.samples labelling,
    ∃ metric : Metric, metric.label? labelling = some sample.1
  inFlight : collectors.inFlight.toInt = counters.inFlight.toNat
  listenerFailures : collectors.listenerFailures = counters.listenerFailures
  observations : collectors.latency.count = counters.completed
  buckets : ∀ place, collectors.latency.cumulative[place]? =
    latencyBounds[place]?.map fun bound =>
      (bound, UInt64.ofNat (Collectors.reached calls place))
  rises : (collectors.latency.cumulative.map Prod.snd).Pairwise (· ≤ ·)
  bounded : ∀ bucket ∈ collectors.latency.cumulative,
    bucket.2 ≤ collectors.latency.count

/-- The text for a scraper shows the digits of counters and nothing else. -/
structure Counters.Exposed (counters : Counters) (calls : List Measurement)
    (collectors : Collectors) : Prop where
  metrics : ∀ metric text,
    metric.series ++ " " ++ text ∈ collectors.expose ↔
      (metric = .listenerFailed ∨ Recorded metric calls) ∧
        text = toString (counters.get metric)
  inFlight : ∀ text, "rpc_requests_in_flight " ++ text ∈ collectors.expose ↔
    text = toString counters.inFlight
  observations : ∀ text,
    "rpc_reply_latency_seconds_count " ++ text ∈ collectors.expose ↔
      text = toString counters.completed
  buckets : ∀ bucket ∈ collectors.latency.cumulative,
    "rpc_reply_latency_seconds_bucket\x7ble=\"" ++
        (Collectors.sampleText bucket.1 ++ "\"\x7d " ++ toString bucket.2) ∈
      collectors.expose

/-- Counters and collectors that take the same measurements report the same
numbers, as they are and in the text for a scraper, as long as the totals and
the last reading of the records held stay below `2 ^ 53`. -/
theorem collectors_agree_with_counters (calls : List Measurement)
    (totals : ∀ metric, total metric calls < 9007199254740992)
    (held : level calls < 9007199254740992) :
    (Counters.after calls).Agree calls (Collectors.after calls) ∧
      (Counters.after calls).Exposed calls (Collectors.after calls) := by
  have hold := Collectors.hold_after calls
  constructor
  · constructor
    case totals =>
        intro metric
        exact Counters.toNat_get_after
          (Nat.lt_trans (totals metric) (by decide))
    case shown => exact Counters.lookup_snapshot _
    case shownInFlight => rfl
    case samples =>
        intro labelling metric label named
        exact ((hold.samples labelling).total metric label named).trans
          (Counters.get_after calls metric).symm
    case present =>
        intro labelling metric label named
        exact (hold.samples labelling).present metric label named
    case known => exact fun labelling => (hold.samples labelling).known
    case inFlight =>
        have signed :
            (Collectors.after calls).inFlight.toInt = level calls := by
          rw [hold.inFlight]
          exact Int64.toInt_ofNat_of_lt (by omega)
        have unsigned :
            (Counters.after calls).inFlight.toNat = level calls := by
          rw [Counters.inFlight_after]
          exact UInt64.toNat_ofNat_of_lt (Nat.lt_trans held (by decide))
        rw [signed, unsigned]
    case listenerFailures =>
        exact hold.listenerFailures.trans
          (Counters.get_after calls .listenerFailed).symm
    case observations =>
        exact hold.count.trans (Counters.get_after calls .completed).symm
    case buckets => exact hold.getElem?_cumulative
    case rises => exact hold.cumulative_rises (totals _)
    case bounded => exact fun _ => hold.cumulative_le_count (totals _)
  · constructor
    case metrics => exact Collectors.series_mem_expose totals
    case inFlight => exact Collectors.inFlight_mem_expose held
    case observations => exact Collectors.count_mem_expose (totals _)
    case buckets => exact fun _ => Collectors.bucket_mem_expose (totals _)

theorem seven_measurements_agree :
    let calls := [.registered, .completed (.ofMillis 3), .reaped 0, .reaped 4,
      .inFlight 12, .unrecognised, .listenerFailed]
    (∀ metric, total metric calls < 9007199254740992) ∧
      level calls < 9007199254740992 ∧
      ((Collectors.after calls).samples .outcome).value "reaped" =
        (Counters.after calls).get .reaped ∧
      (Counters.after calls).snapshot.lookup "reaped" = some 4 ∧
      "rpc_requests_total\x7boutcome=\"reaped\"\x7d 4" ∈
        (Collectors.after calls).expose ∧
      "rpc_requests_in_flight 12" ∈ (Collectors.after calls).expose ∧
      ∀ text, "rpc_requests_total\x7boutcome=\"cancelled\"\x7d " ++ text ∉
        (Collectors.after calls).expose := by
  intro calls
  have totals : ∀ metric, total metric calls < 9007199254740992 := by
    intro metric
    cases metric <;> decide
  have held : level calls < 9007199254740992 := by decide
  obtain ⟨agree, exposed⟩ := collectors_agree_with_counters calls totals held
  refine ⟨totals, held, agree.samples rfl, agree.shown .reaped, ?_, ?_, ?_⟩
  · apply (exposed.metrics .reaped "4").mpr
    refine ⟨.inr ⟨.reaped 4, ?_, ?_⟩, ?_⟩ <;> decide
  · apply (exposed.inFlight "12").mpr
    decide
  · intro text shown
    rcases ((exposed.metrics .cancelled text).mp shown).1 with other | recorded
    · cases other
    · revert recorded
      unfold Recorded
      decide

end Switchboard
