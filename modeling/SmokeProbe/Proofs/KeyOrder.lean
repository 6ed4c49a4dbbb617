import SmokeProbe.Proofs.JsonPrinting
import SmokeProbe.Proofs.Utf8Bytes

/-!
# The order of keys

Different texts have different bytes, so of two different keys one comes before the other. An object
made of any members therefore has its keys in ascending order, each of them once.
-/
namespace SmokeProbe.Json

theorem keyBefore_of_not {k l : String} (hne : k ≠ l) (h : keyBefore k l = false) :
    keyBefore l k = true := by
  apply decide_eq_true
  have hle : ¬ Text.Utf8.bytes k < Text.Utf8.bytes l := of_decide_eq_false h
  by_contra hnot
  apply hne
  have hbytes : Text.Utf8.bytes k = Text.Utf8.bytes l := List.le_antisymm hnot hle
  exact String.toList_inj.mp (Text.Utf8.encode_injective hbytes)

theorem keyBefore_trans {k l m : String} (hkl : keyBefore k l = true) (hlm : keyBefore l m = true) :
    keyBefore k m = true :=
  decide_eq_true (List.lt_trans (of_decide_eq_true hkl) (of_decide_eq_true hlm))

theorem mem_insertMember {key : String} {v : Json} {members : List (String × Json)}
    {m : String × Json} (h : m ∈ insertMember key v members) : m = (key, v) ∨ m ∈ members := by
  induction members with
  | nil => exact .inl (List.mem_singleton.mp h)
  | cons n members ih =>
    rw [insertMember] at h
    split_ifs at h
    · rcases List.mem_cons.mp h with rfl | h
      · exact .inl rfl
      · exact .inr (List.mem_cons_of_mem _ h)
    · rcases List.mem_cons.mp h with rfl | h
      · exact .inl rfl
      · exact .inr h
    · rcases List.mem_cons.mp h with rfl | h
      · exact .inr List.mem_cons_self
      · exact (ih h).imp_right (List.mem_cons_of_mem _)

theorem insertMember_ascending {members : List (String × Json)}
    (h : members.Pairwise fun m n => keyBefore m.1 n.1 = true) (key : String) (v : Json) :
    (insertMember key v members).Pairwise fun m n => keyBefore m.1 n.1 = true := by
  induction members with
  | nil => exact List.pairwise_singleton _ _
  | cons m members ih =>
    obtain ⟨hm, hmembers⟩ := List.pairwise_cons.mp h
    rw [insertMember]
    split_ifs with hkey hbefore
    · exact List.pairwise_cons.mpr ⟨fun n hn => by simpa [hkey] using hm n hn, hmembers⟩
    · refine List.pairwise_cons.mpr ⟨?_, h⟩
      intro n hn
      rcases List.mem_cons.mp hn with rfl | hn
      · exact hbefore
      · exact keyBefore_trans hbefore (hm n hn)
    · refine List.pairwise_cons.mpr ⟨?_, ih hmembers⟩
      intro n hn
      rcases mem_insertMember hn with rfl | hn
      · exact keyBefore_of_not hkey (by simpa using hbefore)
      · exact hm n hn

/-- Whatever members an object is made of, it keeps some of them, in order. -/
theorem exists_ofMembers (members : List (String × Json)) :
    ∃ kept, ofMembers members = .obj kept ∧
      kept.Pairwise (fun m n => keyBefore m.1 n.1 = true) ∧ ∀ m ∈ kept, m ∈ members := by
  have hfold : ∀ acc : List (String × Json),
      acc.Pairwise (fun m n => keyBefore m.1 n.1 = true) →
      ∃ kept, members.foldl (fun acc m => insertMember m.1 m.2 acc) acc = kept ∧
        kept.Pairwise (fun m n => keyBefore m.1 n.1 = true) ∧
        ∀ m ∈ kept, m ∈ acc ∨ m ∈ members := by
    induction members with
    | nil => exact fun acc hacc => ⟨acc, rfl, hacc, fun m hm => .inl hm⟩
    | cons n members ih =>
      intro acc hacc
      obtain ⟨kept, hkept, hascending, hmem⟩ := ih _ (insertMember_ascending hacc n.1 n.2)
      refine ⟨kept, hkept, hascending, fun m hm => ?_⟩
      rcases hmem m hm with hm | hm
      · rcases mem_insertMember hm with rfl | hm
        · exact .inr List.mem_cons_self
        · exact .inl hm
      · exact .inr (List.mem_cons_of_mem _ hm)
  obtain ⟨kept, hkept, hascending, hmem⟩ := hfold [] List.Pairwise.nil
  exact ⟨kept, congrArg Json.obj hkept, hascending, fun m hm => (hmem m hm).resolve_left nofun⟩

/-! ## Members in another order -/

/-- Members with different keys do not get in each other's way. -/
theorem insertMember_comm {k l : String} (hne : k ≠ l) (v w : Json)
    (members : List (String × Json)) :
    insertMember k v (insertMember l w members) = insertMember l w (insertMember k v members) := by
  have horder : keyBefore k l = !keyBefore l k := by
    cases hlk : keyBefore l k with
    | true => exact keyBefore_asymm hlk
    | false => exact keyBefore_of_not hne.symm hlk
  have hne' : l ≠ k := hne.symm
  induction members with
  | nil => cases hlk : keyBefore l k <;> simp [insertMember, hne, hne', horder, hlk]
  | cons m members ih =>
    obtain ⟨a, x⟩ := m
    by_cases hka : k = a
    · subst hka
      cases hlk : keyBefore l k <;> simp [insertMember, hne, hne', horder, hlk]
    by_cases hla : l = a
    · subst hla
      cases hlk : keyBefore l k <;> simp [insertMember, hne, hne', horder, hlk]
    cases hk : keyBefore k a with
    | true =>
      cases hl : keyBefore l a with
      | true => cases hlk : keyBefore l k <;> simp [insertMember, *]
      | false =>
        have hlk : keyBefore l k = false := by
          refine Bool.eq_false_iff.mpr fun h => ?_
          rw [keyBefore_trans h hk] at hl
          cases hl
        simp [insertMember, *]
    | false =>
      cases hl : keyBefore l a with
      | true =>
        have hlk : keyBefore l k = true := by
          refine keyBefore_of_not hne (Bool.eq_false_iff.mpr fun h => ?_)
          rw [keyBefore_trans h hl] at hk
          cases hk
        simp [insertMember, *]
      | false => simp [insertMember, *]

/-- A later member with the same key replaces an earlier one. -/
theorem insertMember_again (k : String) (v w : Json) (members : List (String × Json)) :
    insertMember k w (insertMember k v members) = insertMember k w members := by
  induction members with
  | nil => simp [insertMember]
  | cons m members ih =>
    rw [insertMember]
    split_ifs with hkey hbefore
    · simp [insertMember, hkey]
    · simp [insertMember, hkey, hbefore]
    · simp [insertMember, hkey, hbefore, ih]

/-- A member counts for nothing if another one with its key follows anywhere behind it. -/
theorem foldl_insertMember_shadowed (k : String) (v w : Json) (between acc : List (String × Json)) :
    insertMember k w (between.foldl (fun acc m => insertMember m.1 m.2 acc)
        (insertMember k v acc)) =
      insertMember k w (between.foldl (fun acc m => insertMember m.1 m.2 acc) acc) := by
  induction between generalizing acc with
  | nil => exact insertMember_again k v w acc
  | cons m between ih =>
    rw [List.foldl_cons, List.foldl_cons]
    by_cases hkey : m.1 = k
    · rw [← hkey, insertMember_again]
    · rw [insertMember_comm hkey, ih]

theorem ofMembers_swapped {m n : String × Json} (hne : m.1 ≠ n.1)
    (front back : List (String × Json)) :
    ofMembers (front ++ n :: m :: back) = ofMembers (front ++ m :: n :: back) := by
  simp only [ofMembers, List.foldl_append, List.foldl_cons, insertMember_comm hne]

theorem ofMembers_shadowed {m n : String × Json} (hsame : m.1 = n.1)
    (front between back : List (String × Json)) :
    ofMembers (front ++ m :: (between ++ n :: back)) =
      ofMembers (front ++ (between ++ n :: back)) := by
  simp only [ofMembers, List.foldl_append, List.foldl_cons, hsame, foldl_insertMember_shadowed]

end SmokeProbe.Json
