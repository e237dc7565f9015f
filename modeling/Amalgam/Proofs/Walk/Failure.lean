import Amalgam.Proofs.Walk.Reach
import Amalgam.Store

/-!
# When a walk fails

A walk stops at the first header that cannot be read, yet whether it does is said
of all headers at once: it succeeds exactly if everything that the root reaches
can be read. The header it names is one that the root reaches, and the file it
blames leads to that header.
-/

namespace Amalgam

/-- The file, which is the root or a header that the root reaches, has a line that
leads to the header. -/
inductive Refers (reader : Reader) (ex : Exclusion) (rootDir : Path) (source : String) :
    String → Path → Prop where
  | root {target : Path} :
      Follows ex rootDir source target → Refers reader ex rootDir source rootLabel target
  | header {a b : Path} :
      Reach reader ex rootDir source a → Includes reader ex a b → Refers reader ex rootDir source a b

def AllReadable (reader : Reader) (ex : Exclusion) (rootDir : Path) (source : String) : Prop :=
  ∀ header, Reach reader ex rootDir source header → ∃ content, reader.read header = .ok content

variable {reader : Reader} {ex : Exclusion} {rootDir : Path} {source : String}

theorem Refers.reach {label : String} {target : Path}
    (h : Refers reader ex rootDir source label target) : Reach reader ex rootDir source target := by
  cases h with
  | root hf => exact .root hf
  | header ha hab => exact .step ha hab

/-- What the lines of a file ask for is put down to that file, and what they lead
to is put down to the headers in between. -/
theorem Descends.refers {label : String} {dir : Path} {lines : List String} {t : Trail}
    {r : Except Unreadable Trail} {e : Unreadable} (h : Descends reader ex label dir lines t r)
    (he : r = .error e)
    (hl : ∀ line ∈ lines, ∀ target, directive ex dir line = .follow target →
      Refers reader ex rootDir source label target) :
    Refers reader ex rootDir source e.referrer e.path ∧ reader.read e.path = .error e.cause := by
  induction h with
  | done => cases he
  | text _ _ ih => exact ih he fun line hm => hl line (List.mem_cons_of_mem _ hm)
  | lift _ _ ih => exact ih he fun line hm => hl line (List.mem_cons_of_mem _ hm)
  | known _ _ _ ih => exact ih he fun line hm => hl line (List.mem_cons_of_mem _ hm)
  | unreadable hd _ hr =>
    cases he
    exact ⟨hl _ List.mem_cons_self _ hd, hr⟩
  | stuck hd _ hr _ ih =>
    have hreach := (hl _ List.mem_cons_self _ hd).reach
    refine ih he fun line hm target ht => ?_
    exact .header hreach ⟨_, hr, line, hm, ht⟩
  | enter _ _ _ _ _ _ ihr => exact ihr he fun line hm => hl line (List.mem_cons_of_mem _ hm)

theorem refers_of_extract {e : Unreadable} (h : extract reader ex rootDir source = .error e) :
    Refers reader ex rootDir source e.referrer e.path ∧ reader.read e.path = .error e.cause := by
  have hdesc := descends_descend reader ex rootLabel rootDir (Text.lines source) {}
  rw [extract_of_descends hdesc] at h
  cases hr : descend reader ex rootLabel rootDir (Text.lines source) {} with
  | error e' =>
    rw [hr] at h
    cases h
    exact hdesc.refers hr fun line hm target ht => .root ⟨line, hm, ht⟩
  | ok s =>
    rw [hr] at h
    cases h

theorem allReadable_of_extract {x : Extraction} (h : extract reader ex rootDir source = .ok x) :
    AllReadable reader ex rootDir source := by
  obtain ⟨f, seen', hf, -, hkeys, hread⟩ := extract_forest h
  intro header hr
  have hm : header ∈ x.sources.map (·.1) := by
    rw [hkeys, hf.mem_iff_reachable, ← reach_iff]
    exact hr
  obtain ⟨entry, he, rfl⟩ := List.mem_map.mp hm
  exact ⟨entry.2, hread entry he⟩

theorem exists_extract (h : AllReadable reader ex rootDir source) :
    ∃ x, extract reader ex rootDir source = .ok x := by
  cases hx : extract reader ex rootDir source with
  | ok x => exact ⟨x, rfl⟩
  | error e =>
    obtain ⟨hrefers, hread⟩ := refers_of_extract hx
    obtain ⟨content, hc⟩ := h e.path hrefers.reach
    rw [hread] at hc
    cases hc

/-- A walk succeeds if and only if all that the root reaches can be read. If it
fails, the header it names is reached and cannot be read, for the reason given,
and the referrer has a line that leads to that header. -/
theorem extract_fails_truthfully (reader : Reader) (ex : Exclusion) (rootDir : Path)
    (source : String) :
    ((∃ x, extract reader ex rootDir source = .ok x) ↔ AllReadable reader ex rootDir source) ∧
    ∀ e, extract reader ex rootDir source = .error e →
      Reach reader ex rootDir source e.path ∧ reader.read e.path = .error e.cause ∧
      Refers reader ex rootDir source e.referrer e.path := by
  refine ⟨⟨fun ⟨_, hx⟩ => allReadable_of_extract hx, exists_extract⟩, ?_⟩
  intro e he
  obtain ⟨hrefers, hread⟩ := refers_of_extract he
  exact ⟨hrefers.reach, hread, hrefers⟩

def Store.broken : Store :=
  ⟨[("inc/a.h", "#include \"sub/b.h\""), ("inc/sub/b.h", "int b;\n#include \"../gone.h\"")]⟩

theorem extract_fails_broken :
    extract Store.broken.reader .none "inc" "#include \"a.h\"\n" =
      .error ⟨"inc/gone.h", "inc/sub/b.h", .unknownHeader "inc/gone.h"⟩ ∧
    Reach Store.broken.reader .none "inc" "#include \"a.h\"\n" "inc/gone.h" ∧
    Refers Store.broken.reader .none "inc" "#include \"a.h\"\n" "inc/sub/b.h" "inc/gone.h" := by
  have hfail : extract Store.broken.reader .none "inc" "#include \"a.h\"\n" =
      .error ⟨"inc/gone.h", "inc/sub/b.h", .unknownHeader "inc/gone.h"⟩ := by decide +kernel
  obtain ⟨hreach, -, hrefers⟩ :=
    (extract_fails_truthfully Store.broken.reader .none "inc" "#include \"a.h\"\n").2 _ hfail
  exact ⟨hfail, hreach, hrefers⟩

end Amalgam
