import Amalgam.Proofs.Walk.Reach

/-!
# What a walk lifts

`Lifts` says which lines a scan lifts and in which order, and keeps nothing else:
a header that is met for the first time is scanned completely where it is met,
and one that was met before is passed over. The walk lifts the lines of the root
and those of the headers in one list. Whoever has the lines of the root already
finds in that list what the headers add, in the order of the scan.
-/

namespace Amalgam

def HasLifted (reader : Reader) (ex : Exclusion) (header : Path) (line : String) : Prop :=
  ∃ content, reader.read header = .ok content ∧ line ∈ Text.lines content ∧
    directive ex header.dir line = .lift

/-- Scanning the lines of a file in the given directory, with the headers `seen`
met before, lifts the lines `lifted`, and then the headers `seen'` have been met. -/
inductive Lifts (reader : Reader) (ex : Exclusion) :
    Path → List String → List Path → List String → List Path → Prop where
  | done {dir seen} : Lifts reader ex dir [] seen [] seen
  | text {dir line lines seen lifted seen'} :
      directive ex dir line = .text → Lifts reader ex dir lines seen lifted seen' →
      Lifts reader ex dir (line :: lines) seen lifted seen'
  | lift {dir line lines seen lifted seen'} :
      directive ex dir line = .lift → Lifts reader ex dir lines seen lifted seen' →
      Lifts reader ex dir (line :: lines) seen (line :: lifted) seen'
  | known {dir line lines seen lifted seen' target} :
      directive ex dir line = .follow target → target ∈ seen →
      Lifts reader ex dir lines seen lifted seen' →
      Lifts reader ex dir (line :: lines) seen lifted seen'
  | enter {dir line lines seen inner mid lifted seen' target content} :
      directive ex dir line = .follow target → target ∉ seen → reader.read target = .ok content →
      Lifts reader ex target.dir (Text.lines content) (target :: seen) inner mid →
      Lifts reader ex dir lines mid lifted seen' →
      Lifts reader ex dir (line :: lines) seen (inner ++ lifted) seen'

variable {reader : Reader} {ex : Exclusion} {dir rootDir : Path} {lines lifted : List String}
  {seen seen' : List Path} {line source : String}

theorem Descends.lifts {label : String} {t s : Trail} {r : Except Unreadable Trail}
    (h : Descends reader ex label dir lines t r) (hs : r = .ok s) :
    ∃ lifted, Lifts reader ex dir lines t.visited lifted s.visited ∧
      s.found.lifted.lines = t.found.lifted.lines ++ lifted := by
  induction h generalizing s with
  | done =>
    cases hs
    exact ⟨[], .done, by simp⟩
  | text hd _ ih =>
    obtain ⟨lifted, hl, he⟩ := ih hs
    exact ⟨lifted, .text hd hl, he⟩
  | @lift _ _ line _ _ _ hd _ ih =>
    obtain ⟨lifted, hl, he⟩ := ih hs
    exact ⟨line :: lifted, .lift hd hl, by simp [he, Trail.lift, LiftedLines.push]⟩
  | known hd hv _ ih =>
    obtain ⟨lifted, hl, he⟩ := ih hs
    exact ⟨lifted, .known hd hv hl, he⟩
  | unreadable => cases hs
  | stuck => cases hs
  | enter hd hv hr _ _ ihk ihr =>
    obtain ⟨inner, hk, hke⟩ := ihk rfl
    obtain ⟨lifted, hl, he⟩ := ihr hs
    exact ⟨inner ++ lifted, .enter hd hv hr hk hl, by simp [he, hke, Trail.follow]⟩

namespace Lifts

theorem seen_subset (h : Lifts reader ex dir lines seen lifted seen') : seen ⊆ seen' := by
  induction h with
  | done => exact List.Subset.refl _
  | text _ _ ih => exact ih
  | lift _ _ ih => exact ih
  | known _ _ _ ih => exact ih
  | enter _ _ _ _ _ ihk ihr =>
    exact List.Subset.trans (List.subset_cons_self _ _) (List.Subset.trans ihk ihr)

theorem mem_own_cons {first : String} (hf : directive ex dir first ≠ .lift) :
    (line ∈ first :: lines ∧ directive ex dir line = .lift) ↔
      (line ∈ lines ∧ directive ex dir line = .lift) := by
  refine and_congr_left fun hl => ?_
  have hne : line ≠ first := fun e => hf (e ▸ hl)
  simp [hne]

theorem mem_iff (h : Lifts reader ex dir lines seen lifted seen') :
    line ∈ lifted ↔ (line ∈ lines ∧ directive ex dir line = .lift) ∨
      ∃ header ∈ seen', header ∉ seen ∧ HasLifted reader ex header line := by
  induction h with
  | done =>
    simp only [List.not_mem_nil, false_and, false_or, false_iff]
    rintro ⟨header, hm, hn, -⟩
    exact hn hm
  | text hd _ ih => rw [ih, mem_own_cons (by simp [hd])]
  | lift hd _ ih =>
    rw [List.mem_cons, ih, List.mem_cons]
    constructor
    · rintro (rfl | ⟨hm, hl⟩ | hh)
      · exact .inl ⟨.inl rfl, hd⟩
      · exact .inl ⟨.inr hm, hl⟩
      · exact .inr hh
    · rintro (⟨rfl | hm, hl⟩ | hh)
      · exact .inl rfl
      · exact .inr (.inl ⟨hm, hl⟩)
      · exact .inr (.inr hh)
  | known hd _ _ ih => rw [ih, mem_own_cons (by simp [hd])]
  | @enter _ _ _ seen _ mid _ seen' target content hd hv hr hk hl ihk ihr =>
    have hmid : target :: seen ⊆ mid := hk.seen_subset
    have hlast : mid ⊆ seen' := hl.seen_subset
    rw [List.mem_append, ihk, ihr, mem_own_cons (by simp [hd])]
    constructor
    · rintro ((⟨hm, hlift⟩ | ⟨header, hm, hn, hh⟩) | hown | ⟨header, hm, hn, hh⟩)
      · exact .inr ⟨target, hlast (hmid List.mem_cons_self), hv, content, hr, hm, hlift⟩
      · exact .inr ⟨header, hlast hm, fun hs => hn (List.mem_cons_of_mem _ hs), hh⟩
      · exact .inl hown
      · exact .inr ⟨header, hm, fun hs => hn (hmid (List.mem_cons_of_mem _ hs)), hh⟩
    · rintro (hown | ⟨header, hm, hn, hh⟩)
      · exact .inr (.inl hown)
      · by_cases hin : header ∈ mid
        · by_cases ht : header = target
          · obtain ⟨content', hr', hline, hlift⟩ := hh
            rw [ht, hr] at hr'
            cases hr'
            exact .inl (.inl ⟨hline, ht ▸ hlift⟩)
          · exact .inl (.inr ⟨header, hin, by simp [ht, hn], hh⟩)
        · exact .inr (.inr ⟨header, hm, hin, hh⟩)

theorem without_own (h : Lifts reader ex dir lines seen lifted seen') :
    ∃ inner, Lifts reader ex dir (lines.filter fun line => directive ex dir line ≠ .lift) seen inner
        seen' ∧
      ∀ known : List String, (∀ line ∈ lines, directive ex dir line = .lift → line ∈ known) →
        lifted.filter (· ∉ known) = inner.filter (· ∉ known) := by
  induction h with
  | done => exact ⟨[], .done, fun _ _ => rfl⟩
  | text hd _ ih =>
    obtain ⟨inner, hi, he⟩ := ih
    refine ⟨inner, ?_, fun known hk => he known fun line hl => hk line (List.mem_cons_of_mem _ hl)⟩
    rw [List.filter_cons_of_pos (by simp [hd])]
    exact .text hd hi
  | lift hd _ ih =>
    obtain ⟨inner, hi, he⟩ := ih
    refine ⟨inner, ?_, fun known hk => ?_⟩
    · rwa [List.filter_cons_of_neg (by simp [hd])]
    · rw [List.filter_cons_of_neg (by simpa using hk _ List.mem_cons_self hd)]
      exact he known fun line hl => hk line (List.mem_cons_of_mem _ hl)
  | known hd hv _ ih =>
    obtain ⟨inner, hi, he⟩ := ih
    refine ⟨inner, ?_, fun known hk => he known fun line hl => hk line (List.mem_cons_of_mem _ hl)⟩
    rw [List.filter_cons_of_pos (by simp [hd])]
    exact .known hd hv hi
  | @enter _ _ _ _ within _ _ _ _ _ hd hv hr hk _ _ ihr =>
    obtain ⟨inner, hi, he⟩ := ihr
    refine ⟨within ++ inner, ?_, fun known hk => ?_⟩
    · rw [List.filter_cons_of_pos (by simp [hd])]
      exact .enter hd hv hr hk hi
    · rw [List.filter_append, List.filter_append,
        he known fun line hl => hk line (List.mem_cons_of_mem _ hl)]

end Lifts

theorem extract_lifts {x : Extraction} (h : extract reader ex rootDir source = .ok x) :
    ∃ met, Lifts reader ex rootDir (Text.lines source) [] x.lifted.lines met ∧
      ∀ header, header ∈ met ↔ Reach reader ex rootDir source header := by
  obtain ⟨s, hdesc, rfl⟩ := exists_descends_of_extract h
  obtain ⟨lifted, hl, he⟩ := hdesc.lifts rfl
  obtain ⟨f, hf, -⟩ := hdesc.explores rfl
  refine ⟨s.visited, ?_, fun header => ?_⟩
  · rw [he]
    exact hl
  · rw [hf.mem_seen', reach_iff, ← hf.mem_iff_reachable]
    simp

end Amalgam
