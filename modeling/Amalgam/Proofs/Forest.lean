import Mathlib.Data.List.Nodup
import Mathlib.Logic.Relation

/-!
# The forest of a depth-first visit

A depth-first visit leaves a forest: every place stands below the place it was
first met from. `Explores` relates the places to look at and those seen before
to the forest that the visit leaves, without a stack. Its laws hold for every
visit, whatever leads from place to place: each place is met once, whatever can
be reached is met, and a place is finished after all it leads to unless they
lead back to it.
-/

namespace Amalgam

open Relation (ReflTransGen)

variable {α : Type}

-- ---------------------------------------------------------------------------
-- Places before others
-- ---------------------------------------------------------------------------

def Precedes (l : List α) (a b : α) : Prop :=
  [a, b].Sublist l

namespace Precedes

variable {l l' : List α} {a b : α}

theorem of_mem (ha : a ∈ l) (hb : b ∈ l') : Precedes (l ++ l') a b :=
  (List.singleton_sublist.mpr ha).append (List.singleton_sublist.mpr hb)

theorem append_left (h : Precedes l a b) : Precedes (l' ++ l) a b :=
  h.trans (List.sublist_append_right l' l)

theorem append_right (h : Precedes l a b) : Precedes (l ++ l') a b :=
  h.trans (List.sublist_append_left l l')

theorem filter {p : α → Bool} (h : Precedes l a b) (ha : p a) (hb : p b) :
    Precedes (l.filter p) a b := by
  have hs := List.Sublist.filter p h
  rwa [List.filter_cons_of_pos ha, List.filter_cons_of_pos hb, List.filter_nil] at hs

theorem idxOf_lt [DecidableEq α] (h : Precedes l a b) (hl : l.Nodup) : l.idxOf a < l.idxOf b := by
  induction l with
  | nil => cases h
  | cons c l ih =>
    obtain ⟨hc, hl⟩ := List.nodup_cons.mp hl
    cases h with
    | cons _ h =>
      have ha : c ≠ a := fun e => hc (e ▸ h.subset (by simp))
      have hb : c ≠ b := fun e => hc (e ▸ h.subset (by simp))
      rw [List.idxOf_cons_ne l ha, List.idxOf_cons_ne l hb]
      exact Nat.succ_lt_succ (ih h hl)
    | cons_cons _ h =>
      have hb : a ≠ b := fun e => hc (e ▸ List.singleton_sublist.mp h)
      rw [List.idxOf_cons_self, List.idxOf_cons_ne l hb]
      exact Nat.succ_pos _

end Precedes

-- ---------------------------------------------------------------------------
-- Forests
-- ---------------------------------------------------------------------------

/-- Trees side by side: the first one's label, what stands below it, and the
other trees. -/
inductive Forest (α : Type) where
  | nil
  | node (label : α) (kids rest : Forest α)

namespace Forest

def preorder : Forest α → List α
  | nil => []
  | node v kids rest => v :: (kids.preorder ++ rest.preorder)

def postorder : Forest α → List α
  | nil => []
  | node v kids rest => kids.postorder ++ v :: rest.postorder

def roots : Forest α → List α
  | nil => []
  | node v _ rest => v :: rest.roots

/-- What stands directly below a label is all that `next` leads to from it. -/
def Matches (next : α → List α) : Forest α → Prop
  | nil => True
  | node v kids rest => next v = kids.roots ∧ kids.Matches next ∧ rest.Matches next

theorem postorder_perm (f : Forest α) : f.postorder.Perm f.preorder := by
  induction f with
  | nil => exact .refl _
  | node v kids rest ihk ihr =>
    calc kids.postorder ++ v :: rest.postorder
      _ |>.Perm (v :: (kids.postorder ++ rest.postorder)) := List.perm_middle
      _ |>.Perm (v :: (kids.preorder ++ rest.preorder)) := (ihk.append ihr).cons v

@[simp] theorem mem_postorder {f : Forest α} {v : α} : v ∈ f.postorder ↔ v ∈ f.preorder :=
  f.postorder_perm.mem_iff

end Forest

-- ---------------------------------------------------------------------------
-- Visits
-- ---------------------------------------------------------------------------

def LeadsTo (next : α → List α) (v w : α) : Prop :=
  w ∈ next v

/-- Looking at `pending` in turn, with `seen` seen before, leaves the forest
and has then seen `seen'`. -/
inductive Explores (next : α → List α) : List α → List α → Forest α → List α → Prop where
  | done {seen : List α} : Explores next [] seen .nil seen
  | skip {v : α} {pending seen seen' : List α} {f : Forest α} :
      v ∈ seen → Explores next pending seen f seen' → Explores next (v :: pending) seen f seen'
  | visit {v : α} {pending seen mid seen' : List α} {kids rest : Forest α} :
      v ∉ seen → Explores next (next v) (v :: seen) kids mid →
      Explores next pending mid rest seen' →
      Explores next (v :: pending) seen (.node v kids rest) seen'

namespace Explores

variable {next next' : α → List α} {pending seen seen' : List α} {f : Forest α} {v w : α}

theorem seen_eq (h : Explores next pending seen f seen') : seen' = f.preorder.reverse ++ seen := by
  induction h with
  | done => rfl
  | skip _ _ ih => exact ih
  | visit _ _ _ ihk ihr => simp [Forest.preorder, ihk, ihr]

theorem mem_seen' (h : Explores next pending seen f seen') :
    v ∈ seen' ↔ v ∈ f.preorder ∨ v ∈ seen := by
  simp [h.seen_eq]

theorem not_mem_seen (h : Explores next pending seen f seen') :
    ∀ v ∈ f.preorder, v ∉ seen := by
  induction h with
  | done => simp [Forest.preorder]
  | skip _ _ ih => exact ih
  | visit hv hk _ ihk ihr =>
    intro w hw
    simp only [Forest.preorder, List.mem_cons, List.mem_append] at hw
    rcases hw with rfl | hw | hw
    · exact hv
    · exact fun hs => ihk w hw (List.mem_cons_of_mem _ hs)
    · exact fun hs => ihr w hw (hk.mem_seen'.mpr (.inr (List.mem_cons_of_mem _ hs)))

theorem nodup_preorder (h : Explores next pending seen f seen') : f.preorder.Nodup := by
  induction h with
  | done => exact List.nodup_nil
  | skip _ _ ih => exact ih
  | @visit v _ _ _ _ kids rest _ hk hr ihk ihr =>
    have hkids : v ∉ kids.preorder := fun hm => hk.not_mem_seen v hm (by simp)
    have hrest : ∀ w ∈ rest.preorder, w ∉ v :: kids.preorder := by
      intro w hw hm
      refine hr.not_mem_seen w hw (hk.mem_seen'.mpr ?_)
      rcases List.mem_cons.mp hm with rfl | hm
      · exact .inr (by simp)
      · exact .inl hm
    refine List.nodup_cons.mpr ⟨?_, List.nodup_append'.mpr ⟨ihk, ihr, ?_⟩⟩
    · simp only [List.mem_append, not_or]
      exact ⟨hkids, fun hm => hrest v hm (by simp)⟩
    · exact fun w hw hm => hrest w hm (List.mem_cons_of_mem _ hw)

theorem nodup_postorder (h : Explores next pending seen f seen') : f.postorder.Nodup :=
  f.postorder_perm.nodup_iff.mpr h.nodup_preorder

theorem mem_of_pending (h : Explores next pending seen f seen') : ∀ v ∈ pending, v ∈ seen' := by
  induction h with
  | done => simp
  | skip hv h ih =>
    intro w hw
    rcases List.mem_cons.mp hw with rfl | hw
    · exact h.mem_seen'.mpr (.inr hv)
    · exact ih w hw
  | visit _ hk hr _ ihr =>
    intro w hw
    rcases List.mem_cons.mp hw with rfl | hw
    · exact hr.mem_seen'.mpr (.inr (hk.mem_seen'.mpr (.inr (by simp))))
    · exact ihr w hw

theorem mem_of_next (h : Explores next pending seen f seen') :
    ∀ v ∈ f.preorder, ∀ w ∈ next v, w ∈ seen' := by
  induction h with
  | done => simp [Forest.preorder]
  | skip _ _ ih => exact ih
  | visit _ hk hr ihk ihr =>
    intro x hx w hw
    simp only [Forest.preorder, List.mem_cons, List.mem_append] at hx
    rcases hx with rfl | hx | hx
    · exact hr.mem_seen'.mpr (.inr (hk.mem_of_pending w hw))
    · exact hr.mem_seen'.mpr (.inr (ihk x hx w hw))
    · exact ihr x hx w hw

theorem reachable (h : Explores next pending seen f seen') :
    ∀ v ∈ f.preorder, ∃ r ∈ pending, ReflTransGen (LeadsTo next) r v := by
  induction h with
  | done => simp [Forest.preorder]
  | skip _ _ ih =>
    intro v hv
    obtain ⟨r, hr, hrv⟩ := ih v hv
    exact ⟨r, List.mem_cons_of_mem _ hr, hrv⟩
  | @visit u _ _ _ _ _ _ _ _ _ ihk ihr =>
    intro v hv
    simp only [Forest.preorder, List.mem_cons, List.mem_append] at hv
    rcases hv with rfl | hv | hv
    · exact ⟨v, by simp, .refl⟩
    · obtain ⟨r, hr, hrv⟩ := ihk v hv
      exact ⟨u, by simp, hrv.head hr⟩
    · obtain ⟨r, hr, hrv⟩ := ihr v hv
      exact ⟨r, List.mem_cons_of_mem _ hr, hrv⟩

/-- A place is finished after everything it leads to, apart from what was seen
before the visit and what leads back to it. -/
theorem precedes (h : Explores next pending seen f seen') :
    ∀ v ∈ f.preorder, ∀ w ∈ next v,
      w ∈ seen ∨ Precedes f.postorder w v ∨ ReflTransGen (LeadsTo next) w v := by
  induction h with
  | done => simp [Forest.preorder]
  | skip _ _ ih => exact ih
  | @visit u _ _ _ _ kids rest _ hk hr ihk ihr =>
    intro v hv w hw
    simp only [Forest.preorder, List.mem_cons, List.mem_append] at hv
    simp only [Forest.postorder]
    rcases hv with rfl | hv | hv
    -- the label itself: all it leads to was seen when its kids were done
    · rcases hk.mem_seen'.mp (hk.mem_of_pending w hw) with hm | hm
      · exact .inr (.inl (.of_mem (Forest.mem_postorder.mpr hm) (by simp)))
      · rcases List.mem_cons.mp hm with rfl | hm
        · exact .inr (.inr .refl)
        · exact .inl hm
    -- below the label: what was open is the label, which leads there
    · rcases ihk v hv w hw with hm | hp | hl
      · rcases List.mem_cons.mp hm with rfl | hm
        · obtain ⟨r, hr, hrv⟩ := hk.reachable v hv
          exact .inr (.inr (hrv.head hr))
        · exact .inl hm
      · exact .inr (.inl hp.append_right)
      · exact .inr (.inr hl)
    -- beside the label: the label and all below it are finished
    · rcases ihr v hv w hw with hm | hp | hl
      · have hv' : v ∈ rest.postorder := Forest.mem_postorder.mpr hv
        rcases hk.mem_seen'.mp hm with hm | hm
        · exact .inr (.inl (.of_mem (Forest.mem_postorder.mpr hm) (List.mem_cons_of_mem _ hv')))
        · rcases List.mem_cons.mp hm with rfl | hm
          · exact .inr (.inl (.append_left ((List.singleton_sublist.mpr hv').cons_cons w)))
          · exact .inl hm
      · exact .inr (.inl (.append_left (List.Sublist.cons u hp)))
      · exact .inr (.inr hl)

theorem unique {f' : Forest α} {seen'' : List α} (h : Explores next pending seen f seen')
    (h' : Explores next pending seen f' seen'') : f = f' ∧ seen' = seen'' := by
  induction h generalizing f' seen'' with
  | done =>
    cases h'
    exact ⟨rfl, rfl⟩
  | skip hv _ ih =>
    cases h' with
    | skip _ h' => exact ih h'
    | visit hn _ _ => exact absurd hv hn
  | visit hv _ _ ihk ihr =>
    cases h' with
    | skip hm _ => exact absurd hm hv
    | visit _ hk hr =>
      obtain ⟨rfl, rfl⟩ := ihk hk
      obtain ⟨rfl, rfl⟩ := ihr hr
      exact ⟨rfl, rfl⟩

/-- A visit that starts with nothing seen meets exactly what can be reached. -/
theorem mem_iff_reachable (h : Explores next pending [] f seen') :
    v ∈ f.preorder ↔ ∃ r ∈ pending, ReflTransGen (LeadsTo next) r v := by
  refine ⟨h.reachable v, ?_⟩
  rintro ⟨r, hr, hrv⟩
  have hseen : ∀ w, w ∈ seen' → w ∈ f.preorder := fun w hw => by simpa [h.mem_seen'] using hw
  induction hrv with
  | refl => exact hseen r (h.mem_of_pending r hr)
  | tail _ hw ih => exact hseen _ (h.mem_of_next _ ih _ hw)

theorem precedes_or_back (h : Explores next pending [] f seen') (hv : v ∈ f.preorder)
    (hw : w ∈ next v) : Precedes f.postorder w v ∨ ReflTransGen (LeadsTo next) w v := by
  rcases h.precedes v hv w hw with hm | hp
  · cases hm
  · exact hp

/-- The same forest is left if every visited place leads to the places below it
only, and if places that are not visited count as seen too. -/
theorem prune (h : Explores next pending seen f seen') (hm : f.Matches next') (others : List α)
    (ho : ∀ v ∈ f.preorder, v ∉ others) :
    Explores next' f.roots (seen ++ others) f (seen' ++ others) := by
  induction h with
  | done => exact .done
  | skip _ _ ih => exact ih hm ho
  | visit hv _ _ ihk ihr =>
    simp only [Forest.preorder, List.mem_cons, List.mem_append, or_imp, forall_and] at ho
    obtain ⟨hnext, hmk, hmr⟩ := hm
    refine .visit (by simp [hv, ho.1]) ?_ (ihr hmr ho.2.2)
    rw [hnext]
    exact ihk hmk ho.2.1

end Explores

-- ---------------------------------------------------------------------------
-- Every visit ends
-- ---------------------------------------------------------------------------

variable [DecidableEq α]

def unseen (places seen : List α) : Nat :=
  (places.filter (· ∉ seen)).length

theorem unseen_le {places seen seen' : List α} (h : seen ⊆ seen') :
    unseen places seen' ≤ unseen places seen := by
  refine (List.monotone_filter_right places ?_).length_le
  intro v hv
  simp only [decide_eq_true_eq] at hv ⊢
  exact fun hm => hv (h hm)

theorem unseen_cons_lt {places seen : List α} {v : α} (hp : v ∈ places) (hs : v ∉ seen) :
    unseen places (v :: seen) < unseen places seen := by
  have hsub : (places.filter (· ∉ v :: seen)).Sublist (places.filter (· ∉ seen)) := by
    refine List.monotone_filter_right places ?_
    intro w hw
    simp only [decide_eq_true_eq, List.mem_cons, not_or] at hw ⊢
    exact hw.2
  refine Nat.lt_of_le_of_ne hsub.length_le fun he => ?_
  have hm : v ∈ places.filter (· ∉ v :: seen) := by
    rw [hsub.eq_of_length he]
    simpa using ⟨hp, hs⟩
  simp at hm

theorem exists_explores {next : α → List α} {places : List α} (hn : ∀ v, v ∉ places → next v = [])
    (pending seen : List α) : ∃ f seen', Explores next pending seen f seen' := by
  match pending with
  | [] => exact ⟨.nil, seen, .done⟩
  | v :: pending =>
    by_cases hs : v ∈ seen
    · obtain ⟨f, seen', h⟩ := exists_explores hn pending seen
      exact ⟨f, seen', .skip hs h⟩
    · by_cases hp : v ∈ places
      · have hlt := unseen_cons_lt hp hs
        obtain ⟨kids, mid, hk⟩ := exists_explores hn (next v) (v :: seen)
        have hle : unseen places mid ≤ unseen places (v :: seen) :=
          unseen_le fun w hw => hk.mem_seen'.mpr (.inr hw)
        obtain ⟨rest, seen', hr⟩ := exists_explores hn pending mid
        exact ⟨.node v kids rest, seen', .visit hs hk hr⟩
      · have hk : Explores next (next v) (v :: seen) .nil (v :: seen) := hn v hp ▸ .done
        have hle : unseen places (v :: seen) ≤ unseen places seen :=
          unseen_le (List.subset_cons_self v seen)
        obtain ⟨rest, seen', hr⟩ := exists_explores hn pending (v :: seen)
        exact ⟨.node v .nil rest, seen', .visit hs hk hr⟩
termination_by (unseen places seen, pending.length)
decreasing_by
  all_goals simp_wf
  all_goals simp [Prod.lex_def]
  all_goals omega

end Amalgam
