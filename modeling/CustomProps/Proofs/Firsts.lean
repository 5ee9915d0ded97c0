import CustomProps.Proofs.Extract

/-!
The first declaration of each name. A list of declarations keeps one for every name in it, in the
order in which the names come up, and each is the declaration that a search for its name meets
first.
-/

namespace CustomProps

namespace Index

/-- No name is lost and none is added. -/
theorem mem_map_name_firsts (ds : List Declaration) (name : Text) :
    name ∈ (firsts ds).map (·.name) ↔ name ∈ ds.map (·.name) := by
  induction ds with
  | nil => rfl
  | cons d ds ih =>
    by_cases hn : name = d.name
    · simp [firsts, hn]
    · have hkeep : name ∈ ((firsts ds).filter (·.name != d.name)).map (·.name) ↔
          name ∈ (firsts ds).map (·.name) := by
        simp only [List.mem_map, List.mem_filter, bne_iff_ne, ne_eq]
        constructor
        · rintro ⟨e, ⟨he, -⟩, hname⟩
          exact ⟨e, he, hname⟩
        · rintro ⟨e, he, hname⟩
          exact ⟨e, ⟨he, hname ▸ hn⟩, hname⟩
      rw [firsts, List.map_cons, List.map_cons, List.mem_cons, List.mem_cons, hkeep, ih]

theorem nodup_map_name_firsts (ds : List Declaration) : ((firsts ds).map (·.name)).Nodup := by
  induction ds with
  | nil => exact .nil
  | cons d ds ih =>
    rw [firsts, List.map_cons, List.nodup_cons]
    refine ⟨?_, ih.sublist (List.filter_sublist.map _)⟩
    simp [List.mem_map]

/-- Where no name comes twice, every declaration is the first of its name. -/
theorem firsts_of_nodup {ds : List Declaration} (h : (ds.map (·.name)).Nodup) :
    firsts ds = ds := by
  induction ds with
  | nil => rfl
  | cons d ds ih =>
    obtain ⟨hd, ht⟩ := List.nodup_cons.1 h
    rw [firsts, ih ht]
    congr 1
    rw [List.filter_eq_self]
    intro e he
    rw [bne_iff_ne]
    intro hname
    exact hd (List.mem_map.2 ⟨e, he, hname⟩)

/-- Names come in the order in which they are met first. -/
theorem pairwise_idxOf_firsts (ds : List Declaration) :
    ((firsts ds).map (·.name)).Pairwise fun m n =>
      (ds.map (·.name)).idxOf m < (ds.map (·.name)).idxOf n := by
  induction ds with
  | nil => exact .nil
  | cons d ds ih =>
    have hne : ∀ n ∈ ((firsts ds).filter (·.name != d.name)).map (·.name), d.name ≠ n := by
      intro n hn
      obtain ⟨e, he, rfl⟩ := List.mem_map.1 hn
      exact fun h => by simp [h] at he
    have hafter : ∀ n, d.name ≠ n →
        (d.name :: ds.map (·.name)).idxOf n = (ds.map (·.name)).idxOf n + 1 := by
      intro n hn
      rw [List.idxOf_cons, beq_false_of_ne hn, cond_false]
    rw [firsts, List.map_cons, List.map_cons]
    refine .cons ?_ ?_
    · intro n hn
      rw [hafter n (hne n hn), List.idxOf_cons_self]
      exact Nat.succ_pos _
    · refine (ih.sublist (List.filter_sublist.map _)).imp_of_mem ?_
      intro m n hm hn hlt
      rw [hafter m (hne m hm), hafter n (hne n hn)]
      exact Nat.succ_lt_succ hlt

/-- The one that is kept for a name is the one that a search for the name meets. -/
theorem find?_firsts (ds : List Declaration) (name : Text) :
    (firsts ds).find? (·.name == name) = ds.find? (·.name == name) := by
  induction ds with
  | nil => rfl
  | cons d ds ih =>
    by_cases hn : d.name = name
    · simp [firsts, hn]
    · have hsame : (fun e : Declaration => decide ((e.name != d.name) = true ∧
          (e.name == name) = true)) = fun e => e.name == name := by
        funext e
        by_cases he : e.name = name
        · simp [he, Ne.symm hn]
        · simp [he]
      rw [firsts, List.find?_cons_of_neg (by simp [hn]), List.find?_cons_of_neg (by simp [hn]),
        List.find?_filter, hsame, ih]

/-- What leaves names alone may be done before or after. -/
theorem firsts_map {f : Declaration → Declaration} (hf : ∀ d, (f d).name = d.name)
    (ds : List Declaration) : firsts (ds.map f) = (firsts ds).map f := by
  induction ds with
  | nil => rfl
  | cons d ds ih =>
    have hp : ((fun e : Declaration => e.name != (f d).name) ∘ f) = fun e => e.name != d.name := by
      funext e
      simp [hf]
    rw [List.map_cons, firsts, ih, firsts, List.map_cons, List.filter_map, hp]

/-- Of two lists in a row the second gives the names that the first does not have. -/
theorem firsts_append (ds es : List Declaration) :
    firsts (ds ++ es) =
      firsts ds ++ (firsts es).filter fun e => !(firsts ds).any (·.name == e.name) := by
  let r := Registry.empty ⟨[], none, [], none, none⟩
  have hfold : ∀ fs, (fs.foldl Registry.add r).declarations = firsts fs := by
    intro fs
    rw [Registry.declarations_foldl_add]
    exact List.filter_eq_self.2 fun _ _ => rfl
  rw [← hfold (ds ++ es), List.foldl_append, Registry.declarations_foldl_add, hfold]
  simp only [Registry.declares, hfold]

end Index

end CustomProps
