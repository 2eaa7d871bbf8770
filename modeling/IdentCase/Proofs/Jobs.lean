import IdentCase.Command.Fix
import IdentCase.Proofs.Content
import IdentCase.Proofs.Disk

/-!
# Jobs

A job reads one file and writes at most that file. So jobs whose paths lead to different locations
neither see nor undo what the others write, and the batches in which they are done do not matter.
-/

set_option autoImplicit false

namespace IdentCase.Command.Fix

/-! ## One job -/

def Leads (s : Session) (path : String) (location : Location) : Prop :=
  s.disk.resolve s.directory path = .ok location

theorem leads_sameTree (s : Session) (disk : Disk) (htree : Disk.SameTree s.disk disk)
    (path : String) (location : Location) :
    Leads { s with disk } path location ↔ Leads s path location := by
  rw [Leads, Leads, Disk.resolve_sameTree s.disk disk htree]

inductive Ending (s : Session) (write : Bool) (job : Job) : FileResult × Option Change → Prop where
  | unknown (problem : String) (hengine : job.engine = .error problem) :
    Ending s write job (failed job.path none problem, none)
  | unread (engine : Engine) (problem : FileError) (hengine : job.engine = .ok engine)
    (hread : s.read job.path = .error problem) :
    Ending s write job
      (failed job.path (some engine.language) ("Failed to read file: " ++ problem.message), none)
  | kept (engine : Engine) (location : Location) (text : String)
    (hengine : job.engine = .ok engine) (hleads : Leads s job.path location)
    (hread : s.disk.readAt location = .ok text)
    (hkept : ¬(write = true ∧ (engine.runText text.toList).reports ≠ [])) :
    Ending s write job
      (⟨job.path, some engine.language, (engine.runText text.toList).reports,
        (engine.runText text.toList).skipped, false, none⟩, none)
  | written (engine : Engine) (location : Location) (text : String)
    (hengine : job.engine = .ok engine) (hleads : Leads s job.path location)
    (hread : s.disk.readAt location = .ok text)
    (hwritten : write = true ∧ (engine.runText text.toList).reports ≠ []) :
    Ending s write job
      (⟨job.path, some engine.language, (engine.runText text.toList).reports,
        (engine.runText text.toList).skipped, true, none⟩,
        some ⟨location, (engine.runText text.toList).content⟩)

theorem read_leads (s : Session) (path : String) (location : Location)
    (h : Leads s path location) : s.read path = s.disk.readAt location := by
  unfold Leads at h
  simp only [Session.read, Disk.read, h, bind, Except.bind]

theorem perform_ending (s : Session) (write : Bool) (job : Job) :
    Ending s write job (perform s write job) := by
  unfold perform
  cases hengine : job.engine with
  | error problem => exact .unknown problem hengine
  | ok engine =>
    cases hresolve : s.disk.resolve s.directory job.path with
    | error problem =>
      refine .unread engine problem hengine ?_
      simp only [Session.read, Disk.read, hresolve, bind, Except.bind]
    | ok location =>
      cases hread : s.disk.readAt location with
      | error problem =>
        simp only [bind, Except.bind, hread]
        exact .unread engine problem hengine ((read_leads s job.path location hresolve).trans hread)
      | ok text =>
        simp only [bind, Except.bind, hread, pure, Except.pure]
        by_cases happlied : write = true ∧ (engine.runText text.toList).reports ≠ []
        · have : (write && (engine.runText text.toList).hasChanges) = true := by
            simpa [Outcome.hasChanges] using happlied
          simp only [this, if_true]
          exact .written engine location text hengine hresolve hread happlied
        · have : (write && (engine.runText text.toList).hasChanges) = false := by
            simpa [Outcome.hasChanges] using happlied
          simp only [this]
          exact .kept engine location text hengine hresolve hread happlied

theorem perform_file (s : Session) (write : Bool) (job : Job) :
    (perform s write job).1.file = job.path := by
  have hending := perform_ending s write job
  generalize perform s write job = done at hending
  cases hending <;> rfl

/-- A change lands on the file that the job's path names. -/
theorem perform_lands (s : Session) (write : Bool) (job : Job) (change : Change)
    (h : (perform s write job).2 = some change) :
    Leads s job.path change.location ∧ ∃ old, s.disk.bytesAt? change.location = some old := by
  have hending := perform_ending s write job
  generalize perform s write job = done at hending h
  cases hending with
  | written engine location text hengine hleads hread hwritten =>
    cases h
    exact ⟨hleads, text.toUTF8, (s.disk.readAt_eq_ok location text).mp hread⟩
  | _ => cases h

theorem perform_congr (s : Session) (disk : Disk) (write : Bool) (job : Job)
    (htree : Disk.SameTree s.disk disk)
    (hnode : ∀ location, Leads s job.path location →
      disk.node? location = s.disk.node? location) :
    perform { s with disk } write job = perform s write job := by
  unfold perform
  cases job.engine with
  | error problem => rfl
  | ok engine =>
    simp only [Disk.resolve_sameTree s.disk disk htree]
    cases hresolve : s.disk.resolve s.directory job.path with
    | error problem => rfl
    | ok location =>
      simp only [bind, Except.bind,
        Disk.readAt_congr s.disk disk location (hnode location hresolve)]

def after (s : Session) (write : Bool) (job : Job) : Disk :=
  match (perform s write job).2 with
  | some change => change.put s.disk
  | none => s.disk

theorem after_none (s : Session) (write : Bool) (job : Job)
    (h : (perform s write job).2 = none) : after s write job = s.disk := by
  simp only [after, h]

theorem after_sameTree (s : Session) (write : Bool) (job : Job) :
    Disk.SameTree s.disk (after s write job) := by
  cases h : (perform s write job).2 with
  | none =>
    rw [after_none s write job h]
    exact Disk.sameTree_refl s.disk
  | some change =>
    simp only [after, h]
    exact Disk.write_sameTree _ _ _ (perform_lands s write job change h).2

theorem after_change (s : Session) (write : Bool) (job : Job) (change : Change)
    (h : (perform s write job).2 = some change) (place : Location) :
    (after s write job).node? place =
      if place = change.location then some (.file (String.ofList change.content).toUTF8)
      else s.disk.node? place := by
  simp only [after, h, Change.put]
  exact Disk.node?_write _ _ _ _ (perform_lands s write job change h).2

theorem after_other (s : Session) (write : Bool) (job : Job) (place : Location)
    (hplace : ¬Leads s job.path place) : (after s write job).node? place = s.disk.node? place := by
  cases h : (perform s write job).2 with
  | none => rw [after_none s write job h]
  | some change =>
    rw [after_change s write job change h, if_neg]
    rintro rfl
    exact hplace (perform_lands s write job change h).1

/-- A job does to its file the same on a disk that differs in other files only. -/
theorem after_congr (s : Session) (disk : Disk) (write : Bool) (job : Job)
    (htree : Disk.SameTree s.disk disk)
    (hnode : ∀ location, Leads s job.path location →
      disk.node? location = s.disk.node? location) :
    (after { s with disk } write job).bytes? s.directory job.path =
      (after s write job).bytes? s.directory job.path := by
  have hsame := perform_congr s disk write job htree hnode
  have hback := Disk.sameTree_symm _ _ (after_sameTree s write job)
  refine Disk.bytes?_congr _ _ (Disk.sameTree_trans _ _ _ hback
    (Disk.sameTree_trans _ _ _ htree (after_sameTree { s with disk } write job)))
    s.directory job.path fun location hresolve => ?_
  rw [Disk.resolve_sameTree s.disk _ (after_sameTree s write job)] at hresolve
  cases h : (perform s write job).2 with
  | none =>
    rw [after_none s write job h, after_none { s with disk } write job (by rw [hsame, h])]
    exact hnode location hresolve
  | some change =>
    rw [after_change s write job change h, after_change { s with disk } write job change
      (by rw [hsame, h])]
    simp only [hnode location hresolve]

/-! ## Batches -/

def Apart (s : Session) (jobs : List Job) : Prop :=
  jobs.Pairwise fun a b => ∀ location, Leads s a.path location → ¬Leads s b.path location

theorem apart_sameTree (s : Session) (disk : Disk) (htree : Disk.SameTree s.disk disk)
    (jobs : List Job) (h : Apart s jobs) : Apart { s with disk } jobs := by
  refine h.imp fun {a b} hapart location => ?_
  rw [leads_sameTree s disk htree, leads_sameTree s disk htree]
  exact hapart location

/-- The jobs of a batch might as well be done one after another. -/
theorem performBatch_cons (s : Session) (write : Bool) (job : Job) (rest : List Job)
    (h : Apart s (job :: rest)) :
    performBatch s write (job :: rest) =
      ((perform s write job).1 :: (performBatch { s with disk := after s write job } write rest).1,
        (performBatch { s with disk := after s write job } write rest).2) := by
  -- None of the others reads the file that the first job writes.
  have hsame : rest.map (perform { s with disk := after s write job } write) =
      rest.map (perform s write) := by
    refine List.map_congr_left fun other hother => ?_
    refine perform_congr s _ write other (after_sameTree s write job) fun location hleads => ?_
    exact after_other s write job location fun hjob =>
      (List.pairwise_cons.mp h).1 other hother location hjob hleads
  simp only [performBatch, hsame, List.map_cons, List.filterMap_cons]
  cases hchange : (perform s write job).2 with
  | none => simp only [after, hchange]
  | some change => simp only [after, hchange, List.foldl_cons]

theorem performBatch_singleton (s : Session) (write : Bool) (job : Job) :
    performBatch s write [job] = ([(perform s write job).1], after s write job) :=
  performBatch_cons s write job [] (List.pairwise_singleton _ job)

theorem apart_rest (s : Session) (write : Bool) (job : Job) (rest : List Job)
    (h : Apart s (job :: rest)) : Apart { s with disk := after s write job } rest :=
  apart_sameTree s _ (after_sameTree s write job) rest (List.pairwise_cons.mp h).2

theorem performBatch_sameTree (s : Session) (write : Bool) (jobs : List Job) (h : Apart s jobs) :
    Disk.SameTree s.disk (performBatch s write jobs).2 := by
  induction jobs generalizing s with
  | nil => exact Disk.sameTree_refl s.disk
  | cons job rest ih =>
    rw [performBatch_cons s write job rest h]
    exact Disk.sameTree_trans _ _ _ (after_sameTree s write job)
      (ih _ (apart_rest s write job rest h))

theorem performBatch_other (s : Session) (write : Bool) (jobs : List Job) (h : Apart s jobs)
    (place : Location) (hplace : ∀ job ∈ jobs, ¬Leads s job.path place) :
    (performBatch s write jobs).2.node? place = s.disk.node? place := by
  induction jobs generalizing s with
  | nil => rfl
  | cons job rest ih =>
    rw [performBatch_cons s write job rest h]
    refine (ih _ (apart_rest s write job rest h) fun other hother => ?_).trans
      (after_other s write job place (hplace job (by simp)))
    rw [leads_sameTree s _ (after_sameTree s write job)]
    exact hplace other (by simp [hother])

theorem performBatch_append (s : Session) (write : Bool) (front back : List Job)
    (h : Apart s (front ++ back)) :
    performBatch s write (front ++ back) =
      ((performBatch s write front).1 ++
        (performBatch { s with disk := (performBatch s write front).2 } write back).1,
        (performBatch { s with disk := (performBatch s write front).2 } write back).2) := by
  induction front generalizing s with
  | nil => rfl
  | cons job front ih =>
    have hfront : Apart s (job :: front) := h.sublist (List.sublist_append_left (job :: front) back)
    rw [List.cons_append, performBatch_cons s write job (front ++ back) h,
      performBatch_cons s write job front hfront, ih _ (apart_rest s write job _ h)]
    rfl

/-- The size of the batches does not matter. -/
theorem performAll_eq (workers : Nat) (s : Session) (write : Bool) (jobs : List Job)
    (h : Apart s jobs) : performAll workers s write jobs = performBatch s write jobs := by
  fun_induction performAll workers s write jobs with
  | case1 s => rfl
  | case2 s job rest size results disk hbatch others last hothers ih =>
    -- The later batches start from the disk that the first one leaves, as the rest of a single
    -- batch may.
    have hparts : Apart s ((job :: rest).take size ++ (job :: rest).drop size) := by
      rwa [List.take_append_drop]
    have htree := performBatch_sameTree s write _ (hparts.sublist (List.sublist_append_left _ _))
    rw [hbatch] at htree
    have hback := apart_sameTree s disk htree _ (hparts.sublist (List.sublist_append_right _ _))
    rw [← List.take_append_drop size (job :: rest), performBatch_append s write _ _ hparts, hbatch]
    simp only [← ih hback, hothers]

/-- The bytes of a job's file are those that the job alone leaves. -/
theorem performBatch_bytes (s : Session) (write : Bool) (jobs : List Job) (h : Apart s jobs)
    (job : Job) (hjob : job ∈ jobs) :
    (performBatch s write jobs).2.bytes? s.directory job.path =
      (after s write job).bytes? s.directory job.path := by
  induction jobs generalizing s with
  | nil => cases hjob
  | cons first rest ih =>
    have hrest := apart_rest s write first rest h
    have hapart := (List.pairwise_cons.mp h).1
    rw [performBatch_cons s write first rest h]
    rcases List.mem_cons.mp hjob with rfl | hjob
    · refine Disk.bytes?_congr _ _ (performBatch_sameTree _ write rest hrest) s.directory job.path
        fun location hresolve => ?_
      refine performBatch_other _ write rest hrest location fun other hother => ?_
      rw [Disk.resolve_sameTree s.disk _ (after_sameTree s write job)] at hresolve
      rw [leads_sameTree s _ (after_sameTree s write job)]
      exact hapart other hother location hresolve
    · refine (ih _ hrest hjob).trans ?_
      refine after_congr s _ write job (after_sameTree s write first) fun location hleads => ?_
      exact after_other s write first location fun hfirst => hapart job hjob location hfirst hleads

end IdentCase.Command.Fix
