import HeliumSync.Ordered

/-! A log that only grows, its keys ascending, and reading it in pages. -/
namespace HeliumSync.Log
open Ordered (Ascending)

variable {α κ : Type} [LinearOrder κ]

/-- The entries after a key. -/
def beyond (key : α → κ) (after : κ) (log : List α) : List α := log.filter (after < key ·)

/-- The key to go on from after a page. -/
def resume (key : α → κ) (after : κ) (page : List α) : κ := (page.getLast?.map key).getD after

variable {key : α → κ} {after : κ} {log more : List α}

theorem mem_beyond {x : α} : x ∈ beyond key after log ↔ x ∈ log ∧ after < key x := by
  simp [beyond]

theorem beyond_append :
    beyond key after (log ++ more) = beyond key after log ++ beyond key after more :=
  List.filter_append ..

theorem ascending_beyond (ascending : Ascending key log) :
    Ascending key (beyond key after log) :=
  List.Pairwise.sublist (List.filter_sublist.map key) ascending

/-- What lies beyond an entry is what follows it. -/
theorem beyond_key {front rest : List α} {last : α} (ascending : Ascending key log)
    (split : beyond key after log = front ++ last :: rest) : beyond key (key last) log = rest := by
  have sorted : Ascending key (beyond key after log) := ascending_beyond ascending
  rw [split, Ascending, List.map_append, List.map_cons] at sorted
  obtain ⟨_, later, before⟩ := List.pairwise_append.mp sorted
  have member : last ∈ beyond key after log := by rw [split]; simp
  have here : after < key last := (mem_beyond.mp member).2
  have narrowed : beyond key (key last) log = beyond key (key last) (beyond key after log) := by
    unfold beyond
    rw [List.filter_filter]
    apply List.filter_congr
    intro x _
    have bound : key last < key x → after < key x := here.trans
    simpa using bound
  have front_none : beyond key (key last) front = [] := by
    apply List.filter_eq_nil_iff.mpr
    intro x member
    have earlier := before (key x) (List.mem_map_of_mem member) (key last) List.mem_cons_self
    simpa using earlier.le
  have rest_all : beyond key (key last) rest = rest := by
    apply List.filter_eq_self.mpr
    intro x member
    have larger := (List.pairwise_cons.mp later).1 (key x) (List.mem_map_of_mem member)
    simpa using larger
  rw [narrowed, split, beyond_append, front_none, List.nil_append]
  have itself : beyond key (key last) (last :: rest) = beyond key (key last) rest :=
    List.filter_cons_of_neg (by simp)
  rw [itself, rest_all]

/-- A page takes the log on from its key, and the rest lies beyond the page's own. -/
theorem beyond_page (limit : Nat) (ascending : Ascending key (log ++ more)) :
    beyond key after (log ++ more) = (beyond key after log).take limit ++
      beyond key (resume key after ((beyond key after log).take limit)) (log ++ more) := by
  rcases List.eq_nil_or_concat ((beyond key after log).take limit) with none | ⟨front, last, page⟩
  · rw [none]
    rfl
  · have split : beyond key after (log ++ more) =
        front ++ last :: ((beyond key after log).drop limit ++ beyond key after more) := by
      have parts := List.take_append_drop limit (beyond key after log)
      rw [page, List.concat_eq_append, List.append_assoc, List.singleton_append] at parts
      rw [beyond_append]
      nth_rewrite 1 [← parts]
      rw [List.append_assoc, List.cons_append]
    have rest := beyond_key ascending split
    rw [page, split, resume, List.concat_eq_append, List.getLast?_concat, Option.map_some,
      Option.getD_some, rest]
    simp

/-- There is more exactly when the look-ahead sees it. -/
theorem beyond_resume_eq_nil_iff (limit : Nat) (ascending : Ascending key log) :
    beyond key (resume key after ((beyond key after log).take limit)) log = [] ↔
      (beyond key after log).length ≤ limit := by
  have parts := @beyond_page _ _ _ key after log [] limit (by simpa using ascending)
  rw [List.append_nil] at parts
  have lengths := congrArg List.length parts
  rw [List.length_append, List.length_take] at lengths
  rw [← List.length_eq_zero_iff]
  omega

/-- A page with entries goes on from a larger key. -/
theorem lt_resume {limit : Nat} (room : 0 < limit) (here : beyond key after log ≠ []) :
    after < resume key after ((beyond key after log).take limit) := by
  rcases List.eq_nil_or_concat ((beyond key after log).take limit) with none | ⟨front, last, page⟩
  · rcases List.take_eq_nil_iff.mp none with zero | nil
    · omega
    · exact absurd nil here
  · rw [page, resume, List.concat_eq_append, List.getLast?_concat, Option.map_some,
      Option.getD_some]
    have member : last ∈ (beyond key after log).take limit := by rw [page]; simp
    exact (mem_beyond.mp (List.mem_of_mem_take member)).2

section
variable {β ν : Type} [DecidableEq ν] {name : β → ν} {entry : α → β}

/-- Entries noted one after another, each in place of the one of its name, are the last of every
name. -/
theorem mem_foldl_note {log : List α} {noted : β} :
    noted ∈ log.foldl (fun all x => entry x :: all.filter (name · ≠ name (entry x))) [] ↔
      ∃ x, (log.filter fun x => name (entry x) = name noted).getLast? = some x ∧
        noted = entry x := by
  induction log using List.reverseRecOn with
  | nil => simp
  | append_singleton log last ih =>
      rw [List.foldl_concat, List.mem_cons, List.mem_filter, ih, List.filter_append]
      by_cases same : name (entry last) = name noted
      · have kept : [last].filter (fun x => name (entry x) = name noted) = [last] := by simp [same]
        rw [kept, List.getLast?_concat]
        constructor
        · rintro (here | ⟨_, other⟩)
          · exact ⟨last, rfl, here⟩
          · exact absurd same.symm (by simpa using other)
        · rintro ⟨x, here, rfl⟩
          cases here
          exact .inl rfl
      · have dropped : [last].filter (fun x => name (entry x) = name noted) = [] := by simp [same]
        rw [dropped, List.append_nil]
        constructor
        · rintro (rfl | ⟨earlier, _⟩)
          · exact absurd rfl same
          · exact earlier
        · intro earlier
          exact .inr ⟨earlier, by simpa using Ne.symm same⟩

end

end HeliumSync.Log
