import PathQuery.Host.Native
import PathQuery.Proofs.Outcome

/-!
# How deep a host is copied

The limit on the depth of a copy only cuts. A host may be infinite and may answer questions about
its nodes in any way, but a copy that is made does not depend on the limit, and one that is not made
fails for the limit alone. It fails exactly if some chain of children below the top is longer than
the limit.
-/

namespace PathQuery

open Outcome

namespace Host

variable {σ : Type u} [Host σ]

/-- What the copy of a node asks for: an element below the length of a sequence, or a field under
one of the names of a record, if it is there. -/
inductive IsChild (host : σ) : σ → Prop
  | element {i : Nat} {child : σ} : kind host = .sequence → i < length host →
      element host i = some child → IsChild host child
  | field {name : String} {child : σ} : kind host = .record → name ∈ fieldNames host →
      field host name = some child → IsChild host child

/-- A node at the end of a chain of so many children. -/
inductive LiesBelow : Nat → σ → σ → Prop
  | refl (host : σ) : LiesBelow 0 host host
  | step {n : Nat} {host child node : σ} : IsChild host child → LiesBelow n child node →
      LiesBelow (n + 1) host node

/-- A node among its own children lies any number of levels below itself. -/
theorem LiesBelow.of_isChild_self {host : σ} (h : IsChild host host) (n : Nat) :
    LiesBelow n host host := by
  induction n with
  | zero => exact .refl host
  | succ n ih => exact .step h ih

variable {copy copy' : σ → Except EvalFault Value} {host : σ}

/-! ## Elements and fields -/

/-- Elements that are copied are copied by whatever copies each of them to the same value. -/
theorem copyElements_mono {items : List Value} (hkind : kind host = .sequence)
    (h : ∀ child v, IsChild host child → copy child = .ok v → copy' child = .ok v)
    (hcopy : copyElements copy host = .ok items) : copyElements copy' host = .ok items := by
  refine mapM_mono (fun i hi v hv => ?_) hcopy
  cases hitem : element host i with
  | none => rwa [hitem] at hv
  | some child =>
    rw [hitem] at hv
    exact h child v (.element hkind (List.mem_range.1 hi) hitem) hv

theorem exists_of_copyElements {items : List Value} {i : Nat} {child : σ}
    (hcopy : copyElements copy host = .ok items) (hi : i < length host)
    (hchild : element host i = some child) : ∃ v, copy child = .ok v := by
  obtain ⟨v, hv⟩ := exists_of_mapM_of_mem hcopy (List.mem_range.2 hi)
  rw [hchild] at hv
  exact ⟨v, hv⟩

theorem copyElements_failsOnlyWith {P : EvalFault → Prop} (hkind : kind host = .sequence)
    (h : ∀ child, IsChild host child → FailsOnlyWith P (copy child)) :
    FailsOnlyWith P (copyElements copy host) := by
  refine .mapM_of_mem fun i hi => ?_
  cases hitem : element host i with
  | none => exact FailsOnlyWith.ok Value.null
  | some child => exact h child (.element hkind (List.mem_range.1 hi) hitem)

theorem copyFields_mono {names : List String} {done fields : Fields Value}
    (hkind : kind host = .record) (hnames : ∀ name ∈ names, name ∈ fieldNames host)
    (h : ∀ child v, IsChild host child → copy child = .ok v → copy' child = .ok v)
    (hcopy : copyFields copy host done names = .ok fields) :
    copyFields copy' host done names = .ok fields := by
  induction names generalizing done with
  | nil => exact hcopy
  | cons name rest ih =>
    have hrest := fun name hname => hnames name (List.mem_cons_of_mem _ hname)
    rw [copyFields] at hcopy ⊢
    cases hfield : field host name with
    | none =>
      rw [hfield] at hcopy
      exact ih hrest hcopy
    | some child =>
      rw [hfield] at hcopy
      obtain ⟨v, hv, hcopy⟩ := bind_eq_ok.1 hcopy
      have hchild : IsChild host child := .field hkind (hnames name List.mem_cons_self) hfield
      exact bind_eq_ok.2 ⟨v, h child v hchild hv, ih hrest hcopy⟩

theorem exists_of_copyFields {names : List String} {done fields : Fields Value} {name : String}
    {child : σ} (hcopy : copyFields copy host done names = .ok fields) (hname : name ∈ names)
    (hchild : field host name = some child) : ∃ v, copy child = .ok v := by
  induction names generalizing done with
  | nil => cases hname
  | cons first rest ih =>
    rw [copyFields] at hcopy
    rcases List.mem_cons.1 hname with rfl | hname
    · rw [hchild] at hcopy
      obtain ⟨v, hv, -⟩ := bind_eq_ok.1 hcopy
      exact ⟨v, hv⟩
    · cases hfirst : field host first with
      | none =>
        rw [hfirst] at hcopy
        exact ih hcopy hname
      | some _ =>
        rw [hfirst] at hcopy
        obtain ⟨_, -, hcopy⟩ := bind_eq_ok.1 hcopy
        exact ih hcopy hname

theorem copyFields_failsOnlyWith {P : EvalFault → Prop} {names : List String}
    (hkind : kind host = .record) (hnames : ∀ name ∈ names, name ∈ fieldNames host)
    (h : ∀ child, IsChild host child → FailsOnlyWith P (copy child)) (done : Fields Value) :
    FailsOnlyWith P (copyFields copy host done names) := by
  induction names generalizing done with
  | nil => exact .ok done
  | cons name rest ih =>
    have hrest := ih fun name hname => hnames name (List.mem_cons_of_mem _ hname)
    rw [copyFields]
    cases hfield : field host name with
    | none => exact hrest done
    | some child =>
      have hchild : IsChild host child := .field hkind (hnames name List.mem_cons_self) hfield
      exact (h child hchild).bind fun v => hrest _

/-! ## Copies -/

variable {limit limit' levels levels' : Nat}

/-- A copy stays the same if more levels are left. -/
theorem copy_mono {v : Value} (h : Host.copy limit levels host = .ok v)
    (hlevels : levels ≤ levels') : Host.copy limit' levels' host = .ok v := by
  induction levels generalizing host v levels' with
  | zero => cases h
  | succ levels ih =>
    obtain ⟨levels', rfl⟩ := Nat.exists_eq_succ_of_ne_zero (Nat.ne_zero_of_lt hlevels)
    have hchild (child : σ) (v : Value) (_ : IsChild host child)
        (hcopy : Host.copy limit levels child = .ok v) :
        Host.copy limit' levels' child = .ok v := ih hcopy (Nat.le_of_succ_le_succ hlevels)
    rw [Host.copy] at h ⊢
    cases hkind : kind host with
    | null | scalar =>
      rw [hkind] at h
      exact h
    | sequence =>
      rw [hkind] at h
      obtain ⟨items, hitems, rfl⟩ := map_eq_ok.1 h
      exact map_eq_ok.2 ⟨items, copyElements_mono hkind hchild hitems, rfl⟩
    | record =>
      rw [hkind] at h
      obtain ⟨fields, hfields, rfl⟩ := map_eq_ok.1 h
      exact map_eq_ok.2 ⟨fields, copyFields_mono hkind (fun _ hname => hname) hchild hfields, rfl⟩

/-- With a node its children are copied, with one level less. -/
theorem exists_copy_of_isChild {v : Value} {child : σ}
    (h : Host.copy limit (levels + 1) host = .ok v) (hchild : IsChild host child) :
    ∃ w, Host.copy limit levels child = .ok w := by
  rw [Host.copy] at h
  cases hchild with
  | element hkind hi hitem =>
    rw [hkind] at h
    obtain ⟨items, hitems, -⟩ := map_eq_ok.1 h
    exact exists_of_copyElements hitems hi hitem
  | field hkind hname hfield =>
    rw [hkind] at h
    obtain ⟨fields, hfields, -⟩ := map_eq_ok.1 h
    exact exists_of_copyFields hfields hname hfield

/-- Whatever lies below a node that is copied lies on one of the levels. -/
theorem LiesBelow.lt_of_copy {n : Nat} {node : σ} (h : LiesBelow n host node) {v : Value}
    (hcopy : Host.copy limit levels host = .ok v) : n < levels := by
  induction h generalizing levels v with
  | refl =>
    cases levels with
    | zero => cases hcopy
    | succ levels => exact Nat.zero_lt_succ levels
  | step hchild _ ih =>
    cases levels with
    | zero => cases hcopy
    | succ levels =>
      obtain ⟨w, hw⟩ := exists_copy_of_isChild hcopy hchild
      exact Nat.succ_lt_succ (ih hw)

/-- A copy fails for the limit only, and only if a chain of children uses up the levels. -/
theorem copy_failsOnlyWith (limit levels : Nat) (host : σ) :
    FailsOnlyWith (fun fault => fault = .tooDeep limit ∧ ∃ node, LiesBelow levels host node)
      (Host.copy limit levels host) := by
  induction levels generalizing host with
  | zero => exact .error ⟨rfl, host, .refl host⟩
  | succ levels ih =>
    have hchild (child : σ) (hchild : IsChild host child) : FailsOnlyWith
        (fun fault => fault = .tooDeep limit ∧ ∃ node, LiesBelow (levels + 1) host node)
        (Host.copy limit levels child) :=
      (ih child).imp fun fault hfault => by
        obtain ⟨rfl, node, hnode⟩ := hfault
        exact ⟨rfl, node, .step hchild hnode⟩
    rw [Host.copy]
    cases hkind : kind host with
    | null | scalar => exact .ok _
    | sequence => exact (copyElements_failsOnlyWith hkind hchild).map _
    | record => exact (copyFields_failsOnlyWith hkind (fun _ hname => hname) hchild []).map _

end Host

open Host

/-- A copy is made or fails for its limit. One that is made is made under every greater limit, and
is the same. It fails exactly if a chain of children is longer than the limit. -/
theorem Value.ofHost_of_limit_le {σ : Type u} [Host σ] (host : σ) {limit limit' : Nat}
    (h : limit ≤ limit') :
    ((∃ v, ofHost limit host = .ok v) ∨ ofHost limit host = .error (.tooDeep limit)) ∧
      (∀ v, ofHost limit host = .ok v → ofHost limit' host = .ok v) ∧
      (ofHost limit host = .error (.tooDeep limit) ↔
        ∃ n node, limit < n ∧ LiesBelow n host node) := by
  have hfails := copy_failsOnlyWith limit (limit + 1) host
  refine ⟨?_, fun v hv => copy_mono hv (Nat.succ_le_succ h), fun he => ?_, ?_⟩
  · cases hcopy : ofHost limit host with
    | ok v => exact .inl ⟨v, rfl⟩
    | error fault => exact .inr (congrArg Except.error (hfails fault hcopy).1)
  · obtain ⟨-, node, hnode⟩ := hfails _ he
    exact ⟨limit + 1, node, Nat.lt_succ_self limit, hnode⟩
  · rintro ⟨n, node, hn, hnode⟩
    cases hcopy : ofHost limit host with
    | ok v => exact absurd (hnode.lt_of_copy hcopy) (Nat.not_lt.2 hn)
    | error fault => exact congrArg Except.error (hfails fault hcopy).1

/-- A sequence with gaps around a record that names a field twice, the second time for a node that
contains itself. -/
def Native.gaps : Native :=
  .sequence [none, some (.record [("a", some .null), ("a", some .loop), ("b", none)])] 3

/-- The sequence with gaps is copied two levels deep, with a greater limit as with that one; the
node that contains itself is not copied with any. -/
theorem Value.ofHost_of_limit_le_of_gaps :
    ofHost 2 Native.gaps = .ok (.array [.null, .object [("a", .null)], .null]) ∧
      ofHost 9 Native.gaps = .ok (.array [.null, .object [("a", .null)], .null]) ∧
      ofHost 512 Native.loop = .error (.tooDeep 512) := by
  obtain ⟨-, hmono, -⟩ := ofHost_of_limit_le Native.gaps (by decide : 2 ≤ 9)
  obtain ⟨-, -, hfails⟩ := ofHost_of_limit_le Native.loop (Nat.le_refl 512)
  have hloop : IsChild Native.loop Native.loop := .field rfl (List.mem_singleton_self "next") rfl
  exact ⟨rfl, hmono _ rfl, hfails.2 ⟨513, .loop, by decide, .of_isChild_self hloop 513⟩⟩

end PathQuery
