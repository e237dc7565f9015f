import Amalgam.Proofs.Plan.Again

/-!
# The include lines of a root

The layout of a root is cut from what stands between line feeds, the walk scans its
lines. Both find the same include lines in the same order, asking for the same; a
line differs at most in a return at its end. The walk meets those of the root one by
one while the root is the only file on its stack, and what it has met and what it
has left are always all of them (`rootLeft_run`).
-/

namespace Amalgam

structure Request where
  line : String
  directive : Directive
deriving DecidableEq

def requests (ex : Exclusion) (dir : Path) (lines : List String) : List Request :=
  (lines.filter fun line => directive ex dir line ≠ .text).map fun line =>
    ⟨line, directive ex dir line⟩

/-- The same is asked for, and one line is the other up to a return at its end. -/
structure Request.Alike (laid scanned : Request) : Prop where
  directive : laid.directive = scanned.directive
  line : scanned.line = laid.line ∨ laid.line = scanned.line ++ "\r"

-- ---------------------------------------------------------------------------
-- Two readings
-- ---------------------------------------------------------------------------

namespace Text

theorem forall₂_filter_endLines {p : List Char → Bool} {parts : List (List Char)}
    (he : p [] = false) (hr : ∀ part, p (chopReturn part) = p part) :
    List.Forall₂ (fun part line => line = part ∨ part = line ++ ['\r'])
      (parts.filter p) ((endLines parts).filter p) := by
  induction parts with
  | nil => exact .nil
  | cons part parts ih =>
    cases parts with
    | nil =>
      by_cases hempty : part = []
      · simp [endLines, hempty, he]
      · cases hp : p part <;> simp [endLines, hempty, hp]
    | cons next parts =>
      unfold endLines
      cases hp : p part with
      | false => simpa [List.filter_cons, hp, hr] using ih
      | true =>
        rw [List.filter_cons_of_pos hp, List.filter_cons_of_pos ((hr part).trans hp)]
        exact .cons (chopReturn_cases part) ih

theorem forall₂_filter_lines {p : String → Bool} (he : p "" = false)
    (hr : ∀ line, p (dropReturn line) = p line) (s : String) :
    List.Forall₂ (fun part line => line = part ∨ part = line ++ "\r")
      ((split '\n' s).filter p) ((lines s).filter p) := by
  have hchars : ∀ part : List Char, p (String.ofList (chopReturn part)) = p (String.ofList part) := by
    intro part
    simpa [dropReturn] using hr (String.ofList part)
  simp only [split, lines, List.filter_map, List.forall₂_map_left_iff, List.forall₂_map_right_iff]
  refine (forall₂_filter_endLines he hchars).imp ?_
  rintro part line (rfl | rfl)
  · exact .inl rfl
  · exact .inr (by simp)

end Text

section Requests

variable {ex : Exclusion} {dir : Path} {lines : List String}

theorem requests_append (lines more : List String) :
    requests ex dir (lines ++ more) = requests ex dir lines ++ requests ex dir more := by
  simp [requests]

theorem requests_eq_nil (h : ∀ line ∈ lines, directive ex dir line = .text) :
    requests ex dir lines = [] := by
  simpa [requests] using h

theorem mem_requests {r : Request} :
    r ∈ requests ex dir lines ↔
      r.line ∈ lines ∧ r.directive = directive ex dir r.line ∧ r.directive ≠ .text := by
  obtain ⟨line, asked⟩ := r
  simp only [requests, List.mem_map, List.mem_filter, decide_eq_true_eq, Request.mk.injEq]
  constructor
  · rintro ⟨_, ⟨hm, hne⟩, rfl, rfl⟩
    exact ⟨hm, rfl, hne⟩
  · rintro ⟨hm, rfl, hne⟩
    exact ⟨line, ⟨hm, hne⟩, rfl, rfl⟩

theorem alike_requests (ex : Exclusion) (dir : Path) (source : String) :
    List.Forall₂ Request.Alike (requests ex dir (Text.split '\n' source))
      (requests ex dir (Text.lines source)) := by
  simp only [requests, List.forall₂_map_left_iff, List.forall₂_map_right_iff]
  refine (Text.forall₂_filter_lines ?_ ?_ source).imp ?_
  · simp [directive_empty]
  · intro line
    simp [directive_dropReturn]
  · rintro laid scanned (rfl | rfl)
    · exact ⟨rfl, .inl rfl⟩
    · refine ⟨?_, .inr rfl⟩
      rw [← directive_dropReturn, Text.dropReturn_append]

end Requests

-- ---------------------------------------------------------------------------
-- The root on the stack
-- ---------------------------------------------------------------------------

namespace Walk

variable {reader : Reader} {ex : Exclusion} {w : Walk}

/-- What the next step meets if it scans an include line of the root. -/
def rootScan (ex : Exclusion) (w : Walk) : List Request :=
  match w.frames with
  | [⟨_, dir, line :: _⟩] => requests ex dir [line]
  | _ => []

def rootScans (reader : Reader) (ex : Exclusion) (w : Walk) : List Request :=
  (w.states reader ex).flatMap (rootScan ex)

def rootLeft (ex : Exclusion) (w : Walk) : List Request :=
  match w.frames.getLast? with
  | some root => requests ex root.dir root.pending
  | none => []

theorem getLast?_step (reader : Reader) (ex : Exclusion) {label : String} {dir : Path} {line : String}
    {pending : List String} {outer : List Frame} (hw : w.frames = ⟨label, dir, line :: pending⟩ :: outer) :
    (w.step reader ex).frames.getLast? = (⟨label, dir, pending⟩ :: outer : List Frame).getLast? := by
  simp only [step, hw]
  split
  · rfl
  · rfl
  · split
    · rfl
    · unfold enter
      split <;> simp

theorem rootLeft_step (hw : w.isHalted = false) :
    w.rootLeft ex = w.rootScan ex ++ (w.step reader ex).rootLeft ex := by
  cases hf : w.frames with
  | nil => simp [isHalted, hf] at hw
  | cons frame outer =>
    -- the root is the innermost file exactly if no other file is around it
    obtain ⟨label, dir, pending⟩ := frame
    cases pending with
    | nil => cases outer <;> simp [rootLeft, rootScan, step, hf, requests]
    | cons line pending =>
      have hlast := getLast?_step reader ex hf
      cases outer with
      | nil =>
        simp only [rootLeft, rootScan, hlast, hf, List.getLast?_singleton]
        exact requests_append [line] pending
      | cons next outer => simp [rootLeft, rootScan, hlast, hf]

theorem rootLeft_run (reader : Reader) (ex : Exclusion) (w : Walk) :
    w.rootLeft ex = w.rootScans reader ex ++ (w.run reader ex).rootLeft ex := by
  refine run_conserves (P := fun _ => True) (fun w hw _ => ?_) w trivial
  exact ⟨trivial, rootLeft_step hw⟩

theorem rootLeft_run_eq_nil (h : (w.run reader ex).failure = none) :
    (w.run reader ex).rootLeft ex = [] := by
  simp [rootLeft, frames_run_eq_nil h]

end Walk

-- ---------------------------------------------------------------------------
-- What the two find
-- ---------------------------------------------------------------------------

namespace Inliner

variable {inl : Inliner} {source : String} {plan : Plan}

def laidOut (inl : Inliner) (source : String) : List Request :=
  requests inl.exclusion inl.includeDir (inl.layout source).block

def scanned (inl : Inliner) (source : String) : List Request :=
  (Walk.start inl.includeDir source).rootScans inl.reader inl.exclusion

theorem laidOut_eq (inl : Inliner) (source : String) :
    inl.laidOut source = requests inl.exclusion inl.includeDir (Text.split '\n' source) := by
  have hdiv := Layout.divides_scan inl.exclusion inl.includeDir source
  have hhead := requests_eq_nil fun line hm => of_decide_eq_true (hdiv.head line hm)
  have htail := requests_eq_nil fun line hm => of_decide_eq_true (hdiv.tail line hm)
  rw [← hdiv.parts, requests_append, requests_append, hhead, htail, List.nil_append, List.append_nil]
  rfl

theorem followsNothing_iff :
    inl.FollowsNothing source ↔
      ∀ r ∈ inl.laidOut source, ∀ target, r.directive ≠ .follow target := by
  rw [laidOut_eq]
  constructor
  · intro h r hr target
    obtain ⟨hm, ha, -⟩ := mem_requests.mp hr
    rw [ha]
    exact h r.line hm target
  · intro h line hm target ha
    exact h ⟨line, .follow target⟩ (mem_requests.mpr ⟨hm, ha.symm, by simp⟩) target rfl

theorem requests_lines (inl : Inliner) (source : String) :
    requests inl.exclusion inl.includeDir (Text.lines source) =
      inl.scanned source ++ (inl.walk source).rootLeft inl.exclusion :=
  Walk.rootLeft_run inl.reader inl.exclusion (Walk.start inl.includeDir source)

theorem scanned_eq {x : Extraction} (h : (inl.walk source).result = .ok x) :
    inl.scanned source = requests inl.exclusion inl.includeDir (Text.lines source) := by
  have hnone : (inl.walk source).failure = none := (Walk.result_eq_ok.mp h).1
  rw [requests_lines, walk, Amalgam.walk, Walk.rootLeft_run_eq_nil hnone, List.append_nil]

theorem isEmpty_iff (hplan : inl.plan source = .ok plan) :
    plan.extraction.isEmpty = true ↔ inl.FollowsNothing source := by
  constructor
  · intro h line hm target ha
    simp [isEmpty_of_follow hplan hm ha] at h
  · intro h
    obtain ⟨x, hx, hedges⟩ := h.extract_eq
    rw [(plan_eq_ok hplan).1] at hx
    cases hx
    simp [Extraction.isEmpty, hedges]

/-- The layout and the walk find the same include lines in a root, and none that is
followed if and only if a plan has no header. Then the root is its own unit, and no
reader is asked for anything. -/
theorem readings_agree (inl : Inliner) (source : String) :
    inl.laidOut source = requests inl.exclusion inl.includeDir (Text.split '\n' source) ∧
    List.Forall₂ Request.Alike (inl.laidOut source)
      (requests inl.exclusion inl.includeDir (Text.lines source)) ∧
    inl.scanned source <+: requests inl.exclusion inl.includeDir (Text.lines source) ∧
    (∀ x, (inl.walk source).result = .ok x →
      inl.scanned source = requests inl.exclusion inl.includeDir (Text.lines source)) ∧
    (∀ plan, inl.plan source = .ok plan →
      (plan.extraction.isEmpty = true ↔
        ∀ r ∈ inl.laidOut source, ∀ target, r.directive ≠ .follow target)) ∧
    ((∀ r ∈ inl.laidOut source, ∀ target, r.directive ≠ .follow target) →
      ∀ reader : Reader,
        ({ inl with reader } : Inliner).inline source = .ok source ∧
        (({ inl with reader } : Inliner).walk source).reads = []) := by
  refine ⟨laidOut_eq inl source, ?_, ⟨_, (requests_lines inl source).symm⟩, fun _ => scanned_eq, ?_, ?_⟩
  · rw [laidOut_eq]
    exact alike_requests inl.exclusion inl.includeDir source
  · intro plan hplan
    rw [isEmpty_iff hplan, followsNothing_iff]
  · intro h reader
    have hnone : ({ inl with reader } : Inliner).FollowsNothing source := followsNothing_iff.mpr h
    exact inline_of_followsNothing hnone

def returnedRoot : String :=
  "#include <map>\r\n#include \"a.h\"\r\nint main();\r"

def returnedPlan : Plan :=
  { nestedPlan with includes := ["#include <map>\r", "#include <map>", "#include <set>"] }

theorem readings_agree_returned :
    nested.plan returnedRoot = .ok returnedPlan ∧
    nested.scanned returnedRoot =
      [⟨"#include <map>", .lift⟩, ⟨"#include \"a.h\"", .follow "inc/a.h"⟩] ∧
    ¬ (∀ r ∈ nested.laidOut returnedRoot, ∀ target, r.directive ≠ .follow target) ∧
    ∀ reader : Reader,
      ({ nested with reader } : Inliner).inline "#include <set>\r\nint x;\r" =
        .ok "#include <set>\r\nint x;\r" := by
  have hplan : nested.plan returnedRoot = .ok returnedPlan := by decide +kernel
  have hnone : ∀ r ∈ nested.laidOut "#include <set>\r\nint x;\r", r.directive = .lift := by
    decide +kernel
  obtain ⟨-, -, -, hscanned, hempty, -⟩ := readings_agree nested returnedRoot
  obtain ⟨-, -, -, -, -, hsame⟩ := readings_agree nested "#include <set>\r\nint x;\r"
  refine ⟨hplan, ?_, ?_, ?_⟩
  · rw [hscanned returnedPlan.extraction (plan_eq_ok hplan).1]
    decide +kernel
  · rw [← hempty returnedPlan hplan]
    decide
  · exact fun reader => (hsame (fun r hr target => by simp [hnone r hr]) reader).1

end Inliner

end Amalgam
