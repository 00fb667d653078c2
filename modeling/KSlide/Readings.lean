import KSlide.Errors
import Mathlib.Data.List.Perm.Basic

/-
This file gives what the reading of a list promises.
-/

namespace KSlide
open List
variable {Item Read Error : Type} {read : Item → Except Error Read} {items : List Item}
  {found : List Read}

theorem mapM_forall : items.mapM read = .ok found ↔
    List.Forall₂ (fun item value => read item = .ok value) items found := by
  induction items generalizing found with
  | nil =>
    rw [mapM_nil, pure_ok, forall₂_nil_left_iff]
    exact eq_comm
  | cons item items ih =>
    rw [mapM_cons, forall₂_cons_left_iff]
    simp only [bind_ok, pure_ok, ih]
    constructor
    · rintro ⟨value, first, others, later, same⟩
      exact ⟨value, others, first, later, same.symm⟩
    · rintro ⟨value, others, first, later, same⟩
      exact ⟨value, first, others, later, same.symm⟩

theorem related_item {related : Item → Read → Prop} (all : List.Forall₂ related items found)
    {value : Read} (listed : value ∈ found) : ∃ item ∈ items, related item value := by
  induction all with
  | nil => cases listed
  | @cons item first items found head tail ih =>
    rcases mem_cons.mp listed with same | later
    · exact ⟨item, mem_cons_self, same ▸ head⟩
    · obtain ⟨other, known, holds⟩ := ih later
      exact ⟨other, mem_cons_of_mem _ known, holds⟩

/-- A list in another order is read as the same values in another order. -/
theorem mapM_perm {others : List Item} (same : items.Perm others)
    (parsed : items.mapM read = .ok found) :
    ∃ again, others.mapM read = .ok again ∧ found.Perm again := by
  rw [mapM_forall] at parsed
  obtain ⟨again, related, permuted⟩ := perm_comp_forall₂ same.symm parsed
  exact ⟨again, mapM_forall.mpr related, permuted.symm⟩

theorem mapM_congr {again : Item → Except Error Read}
    (same : ∀ item ∈ items, read item = again item) : items.mapM read = items.mapM again := by
  induction items with
  | nil => rfl
  | cons item items ih =>
    rw [mapM_cons, mapM_cons, same item mem_cons_self,
      ih fun other listed => same other (mem_cons_of_mem _ listed)]

theorem mapM_related {Other Value : Type} {again : Other → Except Error Value}
    {related : Item → Other → Prop} {alike : Read → Value → Prop} {others : List Other}
    (each : ∀ item other value, related item other → read item = .ok value →
      ∃ next, again other = .ok next ∧ alike value next)
    (all : List.Forall₂ related items others) (parsed : items.mapM read = .ok found) :
    ∃ values, others.mapM again = .ok values ∧ List.Forall₂ alike found values := by
  rw [mapM_forall] at parsed
  induction all generalizing found with
  | nil =>
    cases parsed
    exact ⟨[], rfl, List.Forall₂.nil⟩
  | @cons item other items others head tail ih =>
    cases parsed with
    | @cons _ value _ rest first later =>
      obtain ⟨values, parsed', alikes⟩ := ih later
      obtain ⟨next, read', same⟩ := each item other value head first
      refine ⟨next :: values, ?_, List.Forall₂.cons same alikes⟩
      rw [mapM_cons, read', parsed']
      rfl

theorem mapM_flatten {lists : List (List Item)} {found : List (List Read)}
    (parsed : lists.mapM (fun list => list.mapM read) = .ok found) :
    lists.flatten.mapM read = .ok found.flatten := by
  rw [mapM_forall] at parsed ⊢
  induction parsed with
  | nil => exact List.Forall₂.nil
  | cons first _ ih => exact rel_append (mapM_forall.mp first) ih

section
variable {add : List Read → Item → Except Error (List Read)} {apart : Read → Read → Prop}

theorem foldlM_related {related : Item → Read → Prop} (step : ∀ seen, seen.Pairwise apart →
      ∀ item next, add seen item = .ok next ↔ ∃ value, related item value ∧
        (∀ other ∈ seen, apart other value) ∧ next = seen ++ [value])
    {start final : List Read} (known : start.Pairwise apart) :
    items.foldlM add start = .ok final ↔
      ∃ found, List.Forall₂ related items found ∧ final = start ++ found ∧
        final.Pairwise apart := by
  induction items generalizing start with
  | nil =>
    rw [foldlM_nil, pure_ok]
    constructor
    · intro same
      exact ⟨[], List.Forall₂.nil, by rw [same, append_nil], same ▸ known⟩
    · rintro ⟨found, all, same, -⟩
      cases all
      rw [same, append_nil]
  | cons item items ih =>
    rw [foldlM_cons]
    simp only [bind_ok, step start known, forall₂_cons_left_iff]
    constructor
    · rintro ⟨next, ⟨value, first, fresh, same⟩, later⟩
      have longer : (start ++ [value]).Pairwise apart := by
        rw [pairwise_append]
        refine ⟨known, pairwise_singleton _ _, fun other listed last final => ?_⟩
        rw [mem_singleton.mp final]
        exact fresh other listed
      rw [same, ih longer] at later
      obtain ⟨found, all, whole, distinct⟩ := later
      exact ⟨value :: found, ⟨value, found, first, all, rfl⟩, by
        rw [whole, append_assoc, singleton_append], distinct⟩
    · rintro ⟨_, ⟨value, found, first, all, rfl⟩, whole, distinct⟩
      have joined : final = (start ++ [value]) ++ found := by
        rw [whole, append_assoc, singleton_append]
      have fresh : ∀ other ∈ start, apart other value := by
        intro other listed
        rw [whole, pairwise_append] at distinct
        exact distinct.2.2 other listed value mem_cons_self
      have longer : (start ++ [value]).Pairwise apart := by
        rw [joined, pairwise_append] at distinct
        exact distinct.1
      exact ⟨start ++ [value], ⟨value, first, fresh, rfl⟩,
        (ih longer).mpr ⟨found, all, joined, distinct⟩⟩

/-- A loop appends what it reads, and what it reads stays apart. -/
theorem foldlM_apart (step : ∀ seen, seen.Pairwise apart → ∀ item next,
      add seen item = .ok next ↔ ∃ value, read item = .ok value ∧
        (∀ other ∈ seen, apart other value) ∧ next = seen ++ [value])
    {start final : List Read} (known : start.Pairwise apart) :
    items.foldlM add start = .ok final ↔
      ∃ found, items.mapM read = .ok found ∧ final = start ++ found ∧ final.Pairwise apart := by
  rw [foldlM_related step known]
  simp only [mapM_forall]

theorem foldlM_kept {keep : List Item → Item → Except Error (List Item)} {accepted : Item → Prop}
    {apart : Item → Item → Prop} (step : ∀ seen, seen.Pairwise apart → ∀ item next,
      keep seen item = .ok next ↔ accepted item ∧ (∀ other ∈ seen, apart other item) ∧
        next = seen ++ [item])
    {final : List Item} : items.foldlM keep [] = .ok final ↔
      (∀ item ∈ items, accepted item) ∧ items.Pairwise apart ∧ final = items := by
  have related : ∀ seen, seen.Pairwise apart → ∀ item next, keep seen item = .ok next ↔
      ∃ value, (accepted item ∧ item = value) ∧ (∀ other ∈ seen, apart other value) ∧
        next = seen ++ [value] := by
    intro seen known item next
    rw [step seen known item next]
    exact ⟨fun ⟨read, fresh, same⟩ => ⟨item, ⟨read, rfl⟩, fresh, same⟩,
      fun ⟨value, ⟨read, equal⟩, fresh, same⟩ => ⟨read, equal ▸ fresh, equal ▸ same⟩⟩
  rw [foldlM_related related List.Pairwise.nil]
  simp only [forall₂_and_left, forall₂_eq_eq_eq, nil_append]
  constructor
  · rintro ⟨_, ⟨each, rfl⟩, rfl, apart⟩
    exact ⟨each, apart, rfl⟩
  · rintro ⟨each, apart, rfl⟩
    exact ⟨_, ⟨each, rfl⟩, rfl, apart⟩

/-- A loop that gathers keys accepts each item, and no key comes twice. -/
theorem foldlM_fresh {Key : Type} {gather : List Key → Item → Except Error (List Key)}
    {accepted : Item → Prop} {key : Item → Key} (step : ∀ seen item next,
      gather seen item = .ok next ↔ accepted item ∧ key item ∉ seen ∧ next = seen ++ [key item])
    {start final : List Key} : items.foldlM gather start = .ok final ↔
      (∀ item ∈ items, accepted item) ∧ (items.map key).Nodup ∧
        (∀ item ∈ items, key item ∉ start) ∧ final = start ++ items.map key := by
  induction items generalizing start with
  | nil =>
    rw [foldlM_nil, pure_ok, map_nil, append_nil]
    constructor
    · intro same
      exact ⟨fun _ listed => absurd listed not_mem_nil, nodup_nil,
        fun _ listed => absurd listed not_mem_nil, same.symm⟩
    · rintro ⟨-, -, -, same⟩
      exact same.symm
  | cons item items ih =>
    have joined : start ++ (item :: items).map key =
        (start ++ [key item]) ++ items.map key := by
      rw [append_assoc, singleton_append, map_cons]
    rw [foldlM_cons, forall_mem_cons, forall_mem_cons, joined, map_cons,
      nodup_cons]
    simp only [bind_ok, step]
    constructor
    · rintro ⟨_, ⟨first, fresh, rfl⟩, later⟩
      obtain ⟨all, distinct, new, whole⟩ := ih.mp later
      refine ⟨⟨first, all⟩, ⟨fun listed => ?_, distinct⟩, ⟨fresh, fun other known held => ?_⟩,
        whole⟩
      · obtain ⟨other, known, same⟩ := mem_map.mp listed
        exact new other known (by rw [same]; exact mem_append_right _ mem_cons_self)
      · exact new other known (mem_append_left _ held)
    · rintro ⟨⟨first, all⟩, ⟨absent, distinct⟩, ⟨fresh, new⟩, whole⟩
      refine ⟨_, ⟨first, fresh, rfl⟩, ih.mpr ⟨all, distinct, fun other known held => ?_, whole⟩⟩
      rcases mem_append.mp held with early | last
      · exact new other known early
      · exact absent (mem_map.mpr ⟨other, known, mem_singleton.mp last⟩)

theorem foldlM_perm (step : ∀ seen, seen.Pairwise apart → ∀ item next,
      add seen item = .ok next ↔ ∃ value, read item = .ok value ∧
        (∀ other ∈ seen, apart other value) ∧ next = seen ++ [value])
    (symmetric : ∀ {first second}, apart first second → apart second first)
    {others : List Item} (same : items.Perm others) (looped : items.foldlM add [] = .ok found) :
    ∃ again, others.foldlM add [] = .ok again ∧ found.Perm again := by
  obtain ⟨_, parsed, whole, distinct⟩ := (foldlM_apart step List.Pairwise.nil).mp looped
  rw [nil_append] at whole
  rw [← whole] at parsed
  obtain ⟨again, parsed', permuted⟩ := mapM_perm same parsed
  have distinct' := (permuted.pairwise_iff symmetric).mp distinct
  exact ⟨again, (foldlM_apart step List.Pairwise.nil).mpr ⟨again, parsed', rfl, distinct'⟩, permuted⟩

end

/-- The value of a key does not depend on the order of values with distinct keys. -/
theorem find?_perm {Key : Type} [DecidableEq Key] {key : Read → Key} {again : List Read}
    (distinct : found.Pairwise fun first second => key first ≠ key second)
    (same : found.Perm again) (wanted : Key) :
    found.find? (key · == wanted) = again.find? (key · == wanted) := by
  induction same with
  | nil => rfl
  | cons value same ih =>
    rw [find?_cons, find?_cons, ih (pairwise_cons.mp distinct).2]
  | swap first second rest =>
    have different : key second ≠ key first :=
      (pairwise_cons.mp distinct).1 first mem_cons_self
    rw [find?_cons, find?_cons, find?_cons, find?_cons]
    by_cases one : key second = wanted
    · have other : key first ≠ wanted := fun equal => different (one.trans equal.symm)
      rw [beq_iff_eq.mpr one, beq_eq_false_iff_ne.mpr other]
    · rw [beq_eq_false_iff_ne.mpr one]
  | trans one two first second =>
    have turned := (one.pairwise_iff fun {_ _} => Ne.symm).mp distinct
    exact (first distinct).trans (second turned)

end KSlide
