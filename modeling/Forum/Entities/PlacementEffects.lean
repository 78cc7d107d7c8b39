import Mathlib.Algebra.Ring.Int.Defs
import Forum.Entities.StoreEffects

/-!
# What tags and categories do to the store

Each function of a tag or a category as one update of the store. The totals of a category and its
parents change at several places of one map, `updateEach`.
-/

namespace Forum.Entities

open Forum.Library

variable (ctx : Context) (s : EntityCollection)

/-- A thread that has just changed visibly. -/
def DiscussionThread.touched (ctx : Context) (t : DiscussionThread) : DiscussionThread :=
  { t with latestVisibleChange := ctx.currentTime }

/-! ### Totals -/

/-- Changing the totals of several categories in a way that depends on the ownership only. -/
theorem toStore_foldl_modifyTotals (categories : List IdType) {f : EntityCollection → TotalThreads → TotalThreads}
    (hf : ∀ s s' : EntityCollection, s.toOwnership = s'.toOwnership → f s = f s') :
    (categories.foldl (fun s c => s.modifyTotals c (f s)) s).toStore =
      { s.toStore with totalThreads := updateEach categories (f s) s.totalThreads } := by
  induction categories generalizing s with
  | nil => rfl
  | cons c categories ih =>
    rw [List.foldl_cons, ih, hf (s.modifyTotals c (f s)) s rfl]
    rfl

namespace DiscussionCategory

variable (category thread tag : IdType)

/-- The part of `insertNewDiscussionThreads` that is about the category itself. -/
theorem toStore_foldl_addCategory (threads : List IdType) :
    (threads.foldl (fun s thread => DiscussionThread.addCategory thread
      (s.addCategoryMessageCount category (s.threadMessageCount thread)) ctx category) s).toStore =
      { s.toStore with
        categoryMessageCount := Function.update s.categoryMessageCount category
          (s.categoryMessageCount category + (threads.map s.threadMessageCount).sum)
        threadCategories := fun t =>
          if t ∈ threads then insert category (s.threadCategories t) else s.threadCategories t
        thread := fun t => if t ∈ threads then (s.thread t).touched ctx else s.thread t } := by
  induction threads generalizing s with
  | nil => simp
  | cons x threads ih =>
    rw [List.foldl_cons, ih]
    simp only [DiscussionThread.addCategory, DiscussionThread.setLatestVisibleChange,
      EntityCollection.modifyThread, EntityCollection.addCategoryMessageCount,
      Store.mk.injEq, Placement.mk.injEq, Counters.mk.injEq, Properties.mk.injEq, true_and, and_true]
    refine ⟨?_, ?_, ?_⟩
    · funext t
      by_cases hx : t = x <;> simp [hx]
    · simp [add_assoc]
    · funext t
      by_cases hx : t = x <;> simp [hx, DiscussionThread.touched]

/-- A category takes in threads: their messages count, they know of it, and the totals of the
category and its parents count them once more. -/
theorem toStore_insertNewDiscussionThreads (threads : List IdType) :
    (insertNewDiscussionThreads ctx category s threads).toStore =
      { s.toStore with
        categoryThreads := Function.update s.categoryThreads category
          (s.categoryThreads category ∪ threads.toFinset)
        threadCategories := fun t =>
          if t ∈ threads then insert category (s.threadCategories t) else s.threadCategories t
        categoryMessageCount := Function.update s.categoryMessageCount category
          (s.categoryMessageCount category + (threads.map s.threadMessageCount).sum)
        totalThreads := updateEach (s.categoryAndParents category)
          (fun T => threads.foldl (fun T t => T.add s.threadMessageCount t 1) T) s.totalThreads
        thread := fun t => if t ∈ threads then (s.thread t).touched ctx else s.thread t } := by
  have inner : ∀ (c : IdType) (l : List IdType) (s : EntityCollection),
      l.foldl (fun s t => s.modifyTotals c fun T => T.add s.threadMessageCount t 1) s =
        s.modifyTotals c fun T => l.foldl (fun T t => T.add s.threadMessageCount t 1) T := by
    intro c l
    induction l with
    | nil => intro s; simp [EntityCollection.modifyTotals]
    | cons t l ih =>
      intro s
      rw [List.foldl_cons, ih]
      simp [EntityCollection.modifyTotals]
  unfold insertNewDiscussionThreads
  simp only [inner]
  rw [toStore_foldl_modifyTotals _ _ fun s s' h => by rw [h]]
  simp only [EntityCollection.toStore_finishUpdate, toStore_foldl_addCategory,
    EntityCollection.toStore_threadsAddRange, EntityCollection.toStore_prepareUpdate, Store.setThreads,
    Store.threads, Store.categoryAndParents, Store.categoryParents]

/-- A thread leaves a category, with the messages it counts there when they are deleted. -/
theorem toStore_deleteDiscussionThread (deleteMessages onlyThisCategory : Bool) :
    (deleteDiscussionThread ctx category s thread deleteMessages onlyThisCategory).toStore =
      if thread ∈ s.categoryThreads category then
        { s.toStore with
          categoryThreads := Function.update s.categoryThreads category
            ((s.categoryThreads category).erase thread)
          threadCategories :=
            if s.threadAboutToBeDeleted thread then s.threadCategories
            else Function.update s.threadCategories thread ((s.threadCategories thread).erase category)
          categoryMessageCount :=
            if deleteMessages then Function.update s.categoryMessageCount category
              (s.categoryMessageCount category - s.threadMessageCount thread)
            else s.categoryMessageCount
          totalThreads :=
            if onlyThisCategory then s.totalThreads
            else updateEach (s.categoryAndParents category) (fun T => T.remove s.threadMessageCount thread)
              s.totalThreads
          thread :=
            if s.threadAboutToBeDeleted thread then s.thread
            else Function.update s.thread thread ((s.thread thread).touched ctx) }
      else s.toStore := by
  have htotals : ∀ (cs : List IdType) (s : EntityCollection),
      (cs.foldl (fun s c => s.modifyTotals c fun T => T.remove s.threadMessageCount thread) s).toStore =
        { s.toStore with
          totalThreads := updateEach cs (fun T => T.remove s.threadMessageCount thread) s.totalThreads } :=
    fun cs s => toStore_foldl_modifyTotals s cs (f := fun s T => T.remove s.threadMessageCount thread)
      fun s s' h => by rw [h]
  by_cases hmem : thread ∈ s.categoryThreads category
  · cases onlyThisCategory <;> cases deleteMessages <;> cases hdel : s.threadAboutToBeDeleted thread <;>
      simp [deleteDiscussionThread, hmem, hdel, htotals, Store.setThreads, Store.threads,
        EntityCollection.addCategoryMessageCount, DiscussionThread.removeCategory,
        DiscussionThread.setLatestVisibleChange, EntityCollection.modifyThread, DiscussionThread.touched,
        sub_eq_add_neg] <;> rfl
  · cases deleteMessages <;> simp [deleteDiscussionThread, hmem]

end DiscussionCategory

end Forum.Entities
