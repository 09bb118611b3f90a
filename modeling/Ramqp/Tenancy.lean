import Ramqp.Semantics.Address

/-! Clients of different vhosts never reach one another's queues: a registry key determines the vhost, the
kind and the bare name it was made from. -/
namespace Ramqp

open List

variable {vhost address key : String}

lemma not_mem_of_validComponent {text : String} (valid : validComponent text = true) : '/' ∉ text.toList := by
  simp only [validComponent,Bool.and_eq_true,Bool.not_eq_true',contains_eq_mem,decide_eq_false_iff_not] at valid
  exact valid.1

lemma not_mem_of_acceptVhost {hostname : Option String} (opened : acceptVhost hostname = some vhost) :
    '/' ∉ vhost.toList := by
  simp only [acceptVhost] at opened
  split at opened
  · cases opened
  rename_i valid
  cases opened
  simp_all

lemma resolveIn_eq_some (named : resolveIn vhost address = some key) :
    ∃ kind bare, parseAddress address = some (kind,bare) ∧ '/' ∉ bare.toList ∧
      key = registryKey kind (qualify vhost bare) := by
  unfold resolveIn at named
  cases parsed : parseAddress address with
  | none => simp [parsed] at named
  | some pair =>
    obtain ⟨kind,bare⟩ := pair
    simp only [parsed] at named
    split at named
    · cases named
    rename_i valid
    simp only [Bool.or_eq_true,Bool.not_eq_true',not_or,Bool.not_eq_false] at valid
    exact ⟨kind,bare,rfl,not_mem_of_validComponent valid.1,(Option.some.inj named).symm⟩

lemma registryKey_inj {kind₁ kind₂ : QueueKind} {name₁ name₂ : String} :
    registryKey kind₁ name₁ = registryKey kind₂ name₂ ↔ kind₁ = kind₂ ∧ name₁ = name₂ := by
  constructor
  · intro same
    replace same := congrArg String.toList same
    cases kind₁ <;> cases kind₂ <;>
      simp_all [registryKey,QueueKind.tag,String.toList_append,String.toList_inj]
  · rintro ⟨rfl,rfl⟩
    rfl

lemma append_separator_inj {α : Type} {separator : α} {head₁ head₂ tail₁ tail₂ : List α}
    (clean₁ : separator ∉ head₁) (clean₂ : separator ∉ head₂)
    (same : head₁ ++ separator::tail₁ = head₂ ++ separator::tail₂) : head₁ = head₂ ∧ tail₁ = tail₂ := by
  induction head₁ generalizing head₂ with
  | nil => cases head₂ with
    | nil => simpa using same
    | cons => exact absurd (List.cons.inj same).1 (ne_of_not_mem_cons clean₂)
  | cons first rest ih => cases head₂ with
    | nil => exact absurd (List.cons.inj same).1.symm (ne_of_not_mem_cons clean₁)
    | cons first₂ rest₂ =>
      simp only [cons_append,List.cons.injEq] at same
      have := ih (fun member => clean₁ (mem_cons_of_mem _ member))
        (fun member => clean₂ (mem_cons_of_mem _ member)) same.2
      exact ⟨by rw [same.1,this.1],this.2⟩

lemma qualify_toList (vhost bare : String) : (qualify vhost bare).toList =
    if vhost = "" then bare.toList else vhost.toList ++ '/'::bare.toList := by
  by_cases default : vhost = ""
  · simp [qualify,default]
  · simp [qualify,default,String.toList_append]

lemma qualify_inj {vhost₁ vhost₂ bare₁ bare₂ : String} (vclean₁ : '/' ∉ vhost₁.toList)
    (vclean₂ : '/' ∉ vhost₂.toList) (clean₁ : '/' ∉ bare₁.toList) (clean₂ : '/' ∉ bare₂.toList) :
    qualify vhost₁ bare₁ = qualify vhost₂ bare₂ ↔ vhost₁ = vhost₂ ∧ bare₁ = bare₂ := by
  constructor
  · intro same
    have chars := congrArg String.toList same
    rw [qualify_toList,qualify_toList] at chars
    split at chars <;> split at chars
    · simp_all [String.toList_inj]
    -- one side has the separator and the other, a bare name, does not
    · exact absurd (chars ▸ by simp) clean₁
    · exact absurd (chars ▸ by simp) clean₂
    · have := append_separator_inj vclean₁ vclean₂ chars
      simpa [String.toList_inj] using this
  · rintro ⟨rfl,rfl⟩
    rfl

lemma default_key_unqualified (named : resolveIn "" address = some key) (kind : QueueKind) (qualified : String)
    (separated : '/' ∈ qualified.toList) : key ≠ registryKey kind qualified := by
  obtain ⟨_,_,_,clean,rfl⟩ := resolveIn_eq_some named
  intro same
  have := (registryKey_inj.mp same).2
  exact clean (by simpa [← this,qualify] using separated)

theorem client_keys_isolated (host₁ host₂ : Option String) (vhost₁ vhost₂ address₁ address₂ key₁ key₂ : String)
    (opened₁ : acceptVhost host₁ = some vhost₁) (opened₂ : acceptVhost host₂ = some vhost₂)
    (named₁ : resolveIn vhost₁ address₁ = some key₁) (named₂ : resolveIn vhost₂ address₂ = some key₂) :
    (∃ kind₁ bare₁ kind₂ bare₂, parseAddress address₁ = some (kind₁,bare₁) ∧
      parseAddress address₂ = some (kind₂,bare₂) ∧
      (key₁ = key₂ ↔ vhost₁ = vhost₂ ∧ kind₁ = kind₂ ∧ bare₁ = bare₂)) ∧
    (vhost₁ ≠ vhost₂ → key₁ ≠ key₂) ∧
    (vhost₂ = "" → ∀ kind qualified, '/' ∈ qualified.toList → key₂ ≠ registryKey kind qualified) := by
  obtain ⟨kind₁,bare₁,parsed₁,clean₁,rfl⟩ := resolveIn_eq_some named₁
  obtain ⟨kind₂,bare₂,parsed₂,clean₂,rfl⟩ := resolveIn_eq_some named₂
  have same : registryKey kind₁ (qualify vhost₁ bare₁) = registryKey kind₂ (qualify vhost₂ bare₂) ↔
      vhost₁ = vhost₂ ∧ kind₁ = kind₂ ∧ bare₁ = bare₂ := by
    rw [registryKey_inj,qualify_inj (not_mem_of_acceptVhost opened₁) (not_mem_of_acceptVhost opened₂) clean₁ clean₂]
    tauto
  refine ⟨⟨kind₁,bare₁,kind₂,bare₂,parsed₁,parsed₂,same⟩,fun apart equal => apart (same.mp equal).1,?_⟩
  rintro rfl kind qualified separated
  exact default_key_unqualified named₂ kind qualified separated

theorem client_keys_isolated_tenant :
    acceptVhost (some "vhost:a") = some "a" ∧ resolveIn "a" "/queues/b" = some "t:a/b" ∧
      acceptVhost none = some "" ∧ resolveIn "" "b" = some "t:b" ∧ "t:a/b" ≠ "t:b" :=
  ⟨by decide,by decide,by decide,by decide,
    (client_keys_isolated (some "vhost:a") none "a" "" "/queues/b" "b" "t:a/b" "t:b" (by decide) (by decide)
      (by decide) (by decide)).2.1 (by decide)⟩

end Ramqp
