import Amalgam.Proofs.Graph.Spanning
import Amalgam.Proofs.Walk.Descent

/-!
# What a walk reaches

`Includes` is the include relation as the contents give it, with nothing left
out, and `Reach` what it makes of a root. A walk follows an include only where
it meets a header for the first time; `extract_forest` says that it still is a
depth-first visit of the whole relation, and that the edges it keeps are those
of the forest which the visit leaves.
-/

namespace Amalgam

open Relation (ReflTransGen)

/-- Some line of the content, which lies in `dir`, leads to `target`. -/
def Follows (ex : Exclusion) (dir : Path) (content : String) (target : Path) : Prop :=
  ∃ line ∈ Text.lines content, directive ex dir line = .follow target

def Includes (reader : Reader) (ex : Exclusion) (a b : Path) : Prop :=
  ∃ content, reader.read a = .ok content ∧ Follows ex a.dir content b

/-- The headers that the root content leads to, directly or through others. -/
inductive Reach (reader : Reader) (ex : Exclusion) (rootDir : Path) (source : String) :
    Path → Prop where
  | root {target : Path} : Follows ex rootDir source target → Reach reader ex rootDir source target
  | step {a b : Path} :
      Reach reader ex rootDir source a → Includes reader ex a b → Reach reader ex rootDir source b

-- ---------------------------------------------------------------------------
-- The relation as lists
-- ---------------------------------------------------------------------------

def followed (ex : Exclusion) (dir : Path) (lines : List String) : List Path :=
  lines.filterMap fun line =>
    match directive ex dir line with
    | .follow target => some target
    | _ => none

def includesOf (reader : Reader) (ex : Exclusion) (header : Path) : List Path :=
  match reader.read header with
  | .ok content => followed ex header.dir (Text.lines content)
  | .error _ => []

section Lists

variable {reader : Reader} {ex : Exclusion} {dir rootDir : Path} {source : String}

theorem followed_cons (line : String) (lines : List String) :
    followed ex dir (line :: lines) =
      match directive ex dir line with
      | .follow target => target :: followed ex dir lines
      | _ => followed ex dir lines := by
  simp only [followed, List.filterMap_cons]
  cases directive ex dir line <;> rfl

theorem mem_followed_iff {lines : List String} {target : Path} :
    target ∈ followed ex dir lines ↔ ∃ line ∈ lines, directive ex dir line = .follow target := by
  simp only [followed, List.mem_filterMap]
  refine exists_congr fun line => and_congr_right fun _ => ?_
  cases directive ex dir line <;> simp

theorem mem_followed {target : Path} :
    target ∈ followed ex dir (Text.lines source) ↔ Follows ex dir source target :=
  mem_followed_iff

theorem leadsTo_includesOf : LeadsTo (includesOf reader ex) = Includes reader ex := by
  funext a b
  rw [LeadsTo, includesOf, Includes]
  cases hr : reader.read a with
  | error cause => simp
  | ok content => simp [mem_followed]

theorem reach_iff {target : Path} :
    Reach reader ex rootDir source target ↔
      ∃ first ∈ followed ex rootDir (Text.lines source),
        ReflTransGen (LeadsTo (includesOf reader ex)) first target := by
  rw [leadsTo_includesOf]
  constructor
  · intro h
    induction h with
    | root hf => exact ⟨_, mem_followed.mpr hf, .refl⟩
    | step _ hab ih =>
      obtain ⟨first, hfirst, hr⟩ := ih
      exact ⟨first, hfirst, hr.tail hab⟩
  · rintro ⟨first, hfirst, hr⟩
    induction hr with
    | refl => exact .root (mem_followed.mp hfirst)
    | tail _ hab ih => exact .step ih hab

end Lists

-- ---------------------------------------------------------------------------
-- The forest of a walk
-- ---------------------------------------------------------------------------

/-- The contents kept are those of the visited headers, as they were read. -/
structure Trail.Sound (reader : Reader) (t : Trail) : Prop where
  keys : t.found.sources.map (·.1) = t.visited.reverse
  read : ∀ entry ∈ t.found.sources, reader.read entry.1 = .ok entry.2

theorem Trail.Sound.follow {reader : Reader} {t : Trail} (ht : t.Sound reader) (referrer : String)
    {target : Path} {content : String} (hr : reader.read target = .ok content) :
    (t.follow referrer target content).Sound reader := by
  refine ⟨by simp [Trail.follow, ht.keys], ?_⟩
  intro entry he
  simp only [Trail.follow, List.mem_append, List.mem_singleton] at he
  rcases he with he | rfl
  · exact ht.read entry he
  · exact hr

namespace Descends

variable {reader : Reader} {ex : Exclusion} {label : String} {dir : Path} {lines : List String}
  {t s : Trail} {r : Except Unreadable Trail}

theorem sound (h : Descends reader ex label dir lines t r) (ht : t.Sound reader) (hs : r = .ok s) :
    s.Sound reader := by
  induction h generalizing s with
  | done =>
    cases hs
    exact ht
  | text _ _ ih => exact ih ht hs
  | lift _ _ ih => exact ih ⟨ht.keys, ht.read⟩ hs
  | known _ _ _ ih => exact ih ht hs
  | unreadable => cases hs
  | stuck => cases hs
  | enter _ _ hr _ _ ihk ihr => exact ihr (ihk (ht.follow _ hr) rfl) hs

theorem explores (h : Descends reader ex label dir lines t r) (hs : r = .ok s) :
    ∃ f, Explores (includesOf reader ex) (followed ex dir lines) t.visited f s.visited ∧
      s.found.edges = t.found.edges ++ f.edges label := by
  induction h generalizing s with
  | done =>
    cases hs
    exact ⟨.nil, .done, by simp [Forest.edges]⟩
  | text hd _ ih =>
    obtain ⟨f, hf, he⟩ := ih hs
    exact ⟨f, by simpa [followed_cons, hd] using hf, he⟩
  | lift hd _ ih =>
    obtain ⟨f, hf, he⟩ := ih hs
    exact ⟨f, by simpa [followed_cons, hd] using hf, he⟩
  | known hd hv _ ih =>
    obtain ⟨f, hf, he⟩ := ih hs
    refine ⟨f, ?_, he⟩
    simp only [followed_cons, hd]
    exact .skip hv hf
  | unreadable => cases hs
  | stuck => cases hs
  | @enter _ _ _ _ _ target _ _ _ hd hv hr _ _ ihk ihr =>
    obtain ⟨kids, hk, hke⟩ := ihk rfl
    obtain ⟨rest, hf, he⟩ := ihr hs
    refine ⟨.node target kids rest, ?_, ?_⟩
    · simp only [followed_cons, hd]
      refine .visit hv ?_ hf
      simpa [includesOf, hr] using hk
    · simp [he, hke, Trail.follow, Forest.edges]

end Descends

section Extract

variable {reader : Reader} {ex : Exclusion} {rootDir : Path} {source : String} {x : Extraction}

/-- A walk that succeeds visits all that the root leads to, depth first. It keeps
the edges of the forest that this leaves, and the contents of its labels. -/
theorem extract_forest (h : extract reader ex rootDir source = .ok x) :
    ∃ f seen', Explores (includesOf reader ex) (followed ex rootDir (Text.lines source)) [] f seen' ∧
      x.edges = f.edges rootLabel ∧ x.sources.map (·.1) = f.preorder ∧
      ∀ entry ∈ x.sources, reader.read entry.1 = .ok entry.2 := by
  obtain ⟨s, hdesc, rfl⟩ := exists_descends_of_extract h
  obtain ⟨f, hf, he⟩ := hdesc.explores rfl
  have hsound := hdesc.sound ⟨rfl, by simp⟩ rfl
  refine ⟨f, s.visited, hf, he, ?_, hsound.read⟩
  rw [hsound.keys, hf.seen_eq]
  simp

end Extract

end Amalgam
