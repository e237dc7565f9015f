import Amalgam.Log.Journal
import Amalgam.Pattern.Engine
import Amalgam.Proofs.Directive
import Amalgam.Proofs.Walk.Effort

/-!
# What a walk reads

A walk marks a header as visited, asks the reader for it and only then records the edge
to it, so what was asked for is ahead of what was found by one header at most, and only
where the walk fails. That nothing else is read is said by what a reader can change: a
walk goes the same way with any reader that answers alike where it asks (`run_congr`).
-/

namespace Amalgam

-- ---------------------------------------------------------------------------
-- The log
-- ---------------------------------------------------------------------------

namespace Log

def headerRead? (e : Event) : Option Edge :=
  match e.message, e.fields with
  | "reading header", [("path", .text path), ("referrer", .text referrer)] => some ⟨referrer, path⟩
  | _, _ => none

@[simp] theorem headerRead?_readingHeader (read : Edge) :
    headerRead? (readingHeader read) = some read := rfl

@[simp] theorem headerRead?_extractionComplete (x : Extraction) :
    headerRead? (extractionComplete x) = none := rfl

end Log

theorem Inliner.headerRead?_planJournal {inl : Inliner} {source : String} {x : Extraction} :
    ∀ e ∈ inl.planJournal source x, Log.headerRead? e = none := by
  intro e he
  unfold planJournal at he
  split at he
  next => cases he
  next =>
    rcases List.mem_append.mp he with he | he
    · obtain ⟨label, -, rfl⟩ := List.mem_map.mp he
      rfl
    · obtain rfl := List.mem_singleton.mp he
      rfl

theorem Inliner.headersRead_journal (inl : Inliner) (source : String) :
    (inl.journal source).filterMap Log.headerRead? = (inl.walk source).reads := by
  simp only [journal, List.filterMap_append, List.filterMap_map]
  cases (inl.walk source).result with
  | error e => simp [Function.comp_def]
  | ok x => simpa [Function.comp_def] using headerRead?_planJournal

namespace Walk

variable {reader reader' : Reader} {ex : Exclusion} {w w' : Walk}

-- ---------------------------------------------------------------------------
-- What is asked for
-- ---------------------------------------------------------------------------

theorem Move.reads_eq (h : Move reader ex w w') :
    w'.reads = w.reads ∨
      ∃ (read : Edge) (dir : Path) (line : String),
        directive ex dir line = .follow read.target ∧ w'.reads = w.reads ++ [read] := by
  cases h with
  | left => exact .inl rfl
  | passed => exact .inl rfl
  | failed _ hd => exact .inr ⟨_, _, _, hd, rfl⟩
  | entered _ hd => exact .inr ⟨_, _, _, hd, rfl⟩

theorem Move.reads_prefix (h : Move reader ex w w') : w.reads <+: w'.reads := by
  rcases h.reads_eq with hreads | ⟨read, -, -, -, hreads⟩
  · simp [hreads]
  · simp [hreads]

theorem reads_prefix_run (reader : Reader) (ex : Exclusion) (w : Walk) :
    w.reads <+: (w.run reader ex).reads := by
  refine run_induction (P := fun v => w.reads <+: v.reads) ?_ w List.prefix_rfl
  intro v v' _ hmove h
  exact h.trans hmove.reads_prefix

def SparesExcluded (ex : Exclusion) (w : Walk) : Prop :=
  ∀ read ∈ w.reads, ex.excludes read.target = false

theorem Move.sparesExcluded (hmove : Move reader ex w w') (h : w.SparesExcluded ex) :
    w'.SparesExcluded ex := by
  unfold SparesExcluded
  rcases hmove.reads_eq with hreads | ⟨read, dir, line, hd, hreads⟩
  · rw [hreads]
    exact h
  · obtain ⟨-, -, -, hex⟩ := directive_eq_follow.mp hd
    rw [hreads, List.forall_mem_append]
    exact ⟨h, by simpa using hex⟩

theorem sparesExcluded_walk (reader : Reader) (ex : Exclusion) (rootDir : Path) (source : String) :
    (walk reader ex rootDir source).SparesExcluded ex :=
  run_induction (fun _ _ _ => Move.sparesExcluded) (start rootDir source)
    (by simp [SparesExcluded, start])

-- ---------------------------------------------------------------------------
-- Nothing else is asked for
-- ---------------------------------------------------------------------------

/-- The other reader answers alike where the walk has asked. -/
def AnswersAlike (reader reader' : Reader) (w : Walk) : Prop :=
  ∀ read ∈ w.reads, reader'.read read.target = reader.read read.target

theorem enter_congr {rest : List Frame} {referrer : String} {target : Path}
    (h : AnswersAlike reader reader' (w.enter reader rest referrer target)) :
    w.enter reader' rest referrer target = w.enter reader rest referrer target := by
  have hasked : ⟨referrer, target⟩ ∈ (w.enter reader rest referrer target).reads := by
    unfold enter
    split <;> simp
  have hread : reader'.read target = reader.read target := h _ hasked
  simp only [enter, hread]

theorem step_congr (h : AnswersAlike reader reader' (w.step reader ex)) :
    w.step reader' ex = w.step reader ex := by
  unfold step at h ⊢
  split
  next => rfl
  next => rfl
  next label dir line pending outer hf =>
    simp only [hf] at h
    split
    next => rfl
    next => rfl
    next target hd =>
      simp only [hd] at h
      split
      next => rfl
      next hv =>
        rw [if_neg hv] at h
        exact enter_congr h

/-- A walk sees nothing of a reader but the answers that it asks for. -/
theorem run_congr (h : AnswersAlike reader reader' (w.run reader ex)) :
    w.run reader' ex = w.run reader ex := by
  fun_induction run reader ex w with
  | case1 w hw => exact run_halted hw
  | case2 w hw ih =>
    -- what this step asks for is still among the reads where the walk halts
    have hstep : w.step reader' ex = w.step reader ex := by
      refine step_congr fun read hm => h read ?_
      exact (reads_prefix_run reader ex _).subset hm
    rw [run_step (by simpa using hw), hstep, ih h]

/-- A walk asks the reader for no header twice and for none that is excluded, and these
are the reads that the log shows. If it succeeds they are its edges. It fails with a
header exactly if that is the last one it asks for, which cannot be read while all
before it can. No other answer of the reader makes a difference. -/
theorem reads_logged_once (reader : Reader) (ex : Exclusion) (rootDir : Path) (source : String) :
    ((walk reader ex rootDir source).reads.map (·.target)).Nodup ∧
    (∀ x, extract reader ex rootDir source = .ok x →
      (walk reader ex rootDir source).reads = x.edges ∧
      ∀ read ∈ (walk reader ex rootDir source).reads,
        ∃ content, reader.read read.target = .ok content) ∧
    (∀ e, extract reader ex rootDir source = .error e ↔
      ∃ before,
        (walk reader ex rootDir source).reads = before ++ [⟨e.referrer, e.path⟩] ∧
        (∀ read ∈ before, ∃ content, reader.read read.target = .ok content) ∧
        reader.read e.path = .error e.cause) ∧
    (∀ read ∈ (walk reader ex rootDir source).reads, ex.excludes read.target = false) ∧
    (∀ style, (({ includeDir := rootDir, exclusion := ex, style, reader } : Inliner).journal
      source).filterMap Log.headerRead? = (walk reader ex rootDir source).reads) ∧
    ∀ reader' : Reader,
      (∀ read ∈ (walk reader ex rootDir source).reads,
        reader'.read read.target = reader.read read.target) →
      walk reader' ex rootDir source = walk reader ex rootDir source := by
  refine ⟨nodup_reads reader ex rootDir source, ?_, fun _ => extract_eq_error,
    sparesExcluded_walk reader ex rootDir source, fun _ => Inliner.headersRead_journal _ source,
    fun _ => run_congr⟩
  intro x hx
  exact ⟨reads_eq_edges hx, exists_extract_iff.mp ⟨x, hx⟩⟩

def barred : Store :=
  ⟨[("inc/a.h", "#include \"skip/s.h\"\n#include \"b.h\""),
    ("inc/b.h", "#include \"../inc/a.h\"\n#include \"gone.h\"\n#include \"c.h\""),
    ("inc/c.h", "int c;"), ("inc/skip/s.h", "int s;")]⟩

def barredRoot : String :=
  "#include \"b.h\"\n#include \"c.h\""

def skipping : Exclusion :=
  ⟨["skip/"].filterMap Pattern.matcher?⟩

def skippingGone : Exclusion :=
  ⟨["skip/", "gone"].filterMap Pattern.matcher?⟩

def barredResult : Extraction where
  edges := [⟨"<root>", "inc/b.h"⟩, ⟨"inc/b.h", "inc/a.h"⟩, ⟨"inc/b.h", "inc/c.h"⟩]
  lifted := ⟨["#include \"skip/s.h\"", "#include \"gone.h\""]⟩
  sources := [("inc/b.h", "#include \"../inc/a.h\"\n#include \"gone.h\"\n#include \"c.h\""),
    ("inc/a.h", "#include \"skip/s.h\"\n#include \"b.h\""), ("inc/c.h", "int c;")]

/-- The header that is missing ends the walk, or is excluded like the other one. The
excluded headers need not be there. -/
theorem reads_logged_once_barred :
    extract barred.reader skipping "inc" barredRoot =
      .error ⟨"inc/gone.h", "inc/b.h", .unknownHeader "inc/gone.h"⟩ ∧
    (∃ before, (walk barred.reader skipping "inc" barredRoot).reads =
      before ++ [⟨"inc/b.h", "inc/gone.h"⟩]) ∧
    extract barred.reader skippingGone "inc" barredRoot = .ok barredResult ∧
    (walk barred.reader skippingGone "inc" barredRoot).reads = barredResult.edges ∧
    skippingGone.excludes "inc/skip/s.h" = true ∧
    (∀ referrer, ⟨referrer, "inc/skip/s.h"⟩ ∉
      (walk barred.reader skippingGone "inc" barredRoot).reads) ∧
    walk (Store.mk (barred.entries.take 3)).reader skippingGone "inc" barredRoot =
      walk barred.reader skippingGone "inc" barredRoot := by
  have hfail : extract barred.reader skipping "inc" barredRoot =
      .error ⟨"inc/gone.h", "inc/b.h", .unknownHeader "inc/gone.h"⟩ := by decide +kernel
  have hok : extract barred.reader skippingGone "inc" barredRoot = .ok barredResult := by
    decide +kernel
  obtain ⟨-, -, herror, -⟩ := reads_logged_once barred.reader skipping "inc" barredRoot
  obtain ⟨-, hedges, -, hspared, -, halike⟩ :=
    reads_logged_once barred.reader skippingGone "inc" barredRoot
  have hskip : skippingGone.excludes "inc/skip/s.h" = true := by decide +kernel
  obtain ⟨before, hreads, -⟩ := (herror _).mp hfail
  refine ⟨hfail, ⟨before, hreads⟩, hok, (hedges _ hok).1, hskip, ?_, halike _ ?_⟩
  · intro referrer hm
    have hnot := hspared _ hm
    rw [hskip] at hnot
    cases hnot
  · rw [(hedges _ hok).1]
    decide +kernel

end Walk

end Amalgam
