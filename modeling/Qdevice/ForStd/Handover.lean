import Mathlib.Algebra.Group.Nat.Defs

/-! # Revoke-then-grant handover

A coordinator moves a right between groups of parties with numbered messages.  It
chooses a group, revokes the right from everybody outside it, waits until these
parties have answered, and only then grants the right to the group.  Parties join and
leave, the choice can be suspended or replaced while answers are still on their way,
and a message may fail to be queued.

A party's messages are kept as one history; `answered` is the length of the prefix that
it has answered.  The coordinator only compares an answer with the newest message
of the party: an older one counts as answered but changes nothing else.

Two results: whoever may still hold the right is in the group it was last granted to
(`Safe`), and a finished round has revoked and granted everything it set out to, provided
that no answer to an old message is taken for one of the current round (`Complete`). -/

namespace Handover

/-- What the coordinator waits for from a party. -/
inductive Role where
  | idle
  | revoked
  | granted
deriving DecidableEq

/-- A grant or a revocation, and whether it was queued for the party. -/
structure Msg where
  grant : Bool
  queued : Bool
deriving DecidableEq

/-- One party.  `assigned` and `start` record what the choice that began the current round did
    with it: its role, and the length of its history at that time. -/
structure Party (κ ν : Type) where
  key : κ
  node : ν
  role : Role
  sent : List Msg
  answered : Nat
  assigned : Role
  start : Nat

inductive Phase where
  | idle
  | suspended
  | revoking
  | granting
deriving DecidableEq

/-- The coordinator: its parties, the group chosen last and the group granted last. -/
structure State (κ ν : Type) where
  parties : List (Party κ ν)
  phase : Phase
  chosen : ν → Prop
  granted : ν → Prop

variable {κ ν : Type}

namespace Party

/-- The party may hold the right: a grant was queued, and no later revocation answered. -/
def Holder (p : Party κ ν) : Prop :=
  ∃ i, p.sent[i]? = some ⟨true, true⟩ ∧
    ∀ j, i < j → j < p.answered → p.sent[j]? ≠ some ⟨false, true⟩

/-- The party has answered a grant (or revocation) of the current round. -/
def HasAnswered (p : Party κ ν) (grant : Bool) : Prop :=
  ∃ i, p.start ≤ i ∧ i < p.answered ∧ p.sent[i]? = some ⟨grant, true⟩

/-- The newest message is a grant (or revocation). -/
def NewestIs (p : Party κ ν) (grant : Bool) : Prop :=
  ∃ queued, p.sent[p.sent.length - 1]? = some ⟨grant, queued⟩

/-- A party nothing was sent to. -/
def Fresh (p : Party κ ν) : Prop :=
  p.role = .idle ∧ p.sent = [] ∧ p.answered = 0 ∧ p.assigned = .idle

/-- The message `i` is queued and not answered yet. -/
def CanAnswer (p : Party κ ν) (i : Nat) : Prop :=
  p.answered ≤ i ∧ ∃ grant, p.sent[i]? = some ⟨grant, true⟩

/-- A new round begins for the party. -/
def assign (p : Party κ ν) (role : Role) : Party κ ν :=
  { p with role, assigned := role, start := p.sent.length }

def send (p : Party κ ν) (m : Msg) : Party κ ν := { p with sent := p.sent ++ [m] }

/-- The party answers message `i`; only the newest message ends the wait. -/
def answer (p : Party κ ν) (i : Nat) : Party κ ν :=
  { p with answered := i + 1, role := if i + 1 = p.sent.length then .idle else p.role }

end Party

/-- What can happen in one step.  `accept` restricts which answers arrive. -/
inductive Step (accept : State κ ν → Party κ ν → Nat → Prop) : State κ ν → State κ ν → Prop where
  /-- Parties join and leave. -/
  | members {s s' : State κ ν} (hphase : s'.phase = s.phase) (hchosen : s'.chosen = s.chosen)
      (hgranted : s'.granted = s.granted)
      (hparties : ∀ p' ∈ s'.parties, p' ∈ s.parties ∨ p'.Fresh) : Step accept s s'
  /-- Nobody was there, so the coordinator starts afresh. -/
  | restart {s s' : State κ ν} (hphase : s'.phase = .idle)
      (hparties : ∀ p' ∈ s'.parties, p'.Fresh) : Step accept s s'
  /-- The choice is put off. -/
  | suspend {s s' : State κ ν} (hphase : s'.phase = .suspended) (hgranted : s'.granted = s.granted)
      (hparties : ∀ p' ∈ s'.parties, p' ∈ s.parties) : Step accept s s'
  /-- A group is chosen and everybody outside is revoked. -/
  | revoke {s s' : State κ ν} (hphase : s'.phase = .revoking) (hgranted : s'.granted = s.granted)
      (hparties : ∀ p' ∈ s'.parties, ∃ p ∈ s.parties,
        (s'.chosen p.node ∧ p' = p.assign .granted) ∨
          ∃ queued, p' = (p.assign .revoked).send ⟨false, queued⟩) : Step accept s s'
  /-- A group is chosen that leaves nobody out. -/
  | grant {s s' : State κ ν} (hphase : s'.phase = .granting) (hgranted : s'.granted = s'.chosen)
      (hparties : ∀ p' ∈ s'.parties, ∃ p ∈ s.parties, s'.chosen p.node ∧
        ∃ queued, p' = (p.assign .granted).send ⟨true, queued⟩) : Step accept s s'
  /-- A party answers. -/
  | answer {s s' : State κ ν} {p : Party κ ν} {i : Nat} (hp : p ∈ s.parties)
      (hi : p.CanAnswer i) (haccept : accept s p i)
      (hphase : s'.phase = s.phase) (hchosen : s'.chosen = s.chosen)
      (hgranted : s'.granted = s.granted)
      (hparties : ∀ p' ∈ s'.parties, p' ∈ s.parties ∨ p' = p.answer i) : Step accept s s'
  /-- All revocations are answered, so the grants go out. -/
  | startGrants {s s' : State κ ν} (hrevoking : s.phase = .revoking)
      (hnone : ∀ p ∈ s.parties, p.role ≠ .revoked) (hphase : s'.phase = .granting)
      (hchosen : s'.chosen = s.chosen) (hgranted : s'.granted = s.chosen)
      (hparties : ∀ p' ∈ s'.parties, ∃ p ∈ s.parties,
        (p.role = .granted ∧ ∃ queued, p' = p.send ⟨true, queued⟩) ∨
          (p.role ≠ .granted ∧ p' = p)) : Step accept s s'
  /-- There is nothing left to wait for. -/
  | finish {s s' : State κ ν}
      (hdone : (s.phase = .revoking ∧ ∀ p ∈ s.parties, p.role ≠ .revoked) ∨ s.phase = .granting)
      (hnone : ∀ p ∈ s.parties, p.role ≠ .granted) (hphase : s'.phase = .idle)
      (hgranted : s'.granted = s.granted) (hparties : ∀ p' ∈ s'.parties, p' ∈ s.parties) :
      Step accept s s'

/-- Finitely many steps. -/
inductive Steps (accept : State κ ν → Party κ ν → Nat → Prop) : State κ ν → State κ ν → Prop where
  | refl (s : State κ ν) : Steps accept s s
  | tail {s s' s'' : State κ ν} : Steps accept s s' → Step accept s' s'' → Steps accept s s''

theorem Steps.single {accept : State κ ν → Party κ ν → Nat → Prop} {s s' : State κ ν}
    (h : Step accept s s') : Steps accept s s' :=
  .tail (.refl s) h

variable {accept : State κ ν → Party κ ν → Nat → Prop}

/-- Accepting more answers allows at least the same steps. -/
theorem Step.mono {accept' : State κ ν → Party κ ν → Nat → Prop} {s s' : State κ ν}
    (himp : ∀ p i, accept s p i → accept' s p i) (h : Step accept s s') : Step accept' s s' := by
  cases h with
  | members hphase hchosen hgranted hparties => exact .members hphase hchosen hgranted hparties
  | restart hphase hparties => exact .restart hphase hparties
  | suspend hphase hgranted hparties => exact .suspend hphase hgranted hparties
  | revoke hphase hgranted hparties => exact .revoke hphase hgranted hparties
  | grant hphase hgranted hparties => exact .grant hphase hgranted hparties
  | answer hp hi haccept hphase hchosen hgranted hparties =>
    exact .answer hp hi (himp _ _ haccept) hphase hchosen hgranted hparties
  | startGrants hrevoking hnone hphase hchosen hgranted hparties =>
    exact .startGrants hrevoking hnone hphase hchosen hgranted hparties
  | finish hdone hnone hphase hgranted hparties =>
    exact .finish hdone hnone hphase hgranted hparties

/-! ### Lemmas about one party -/

namespace Party

variable {p : Party κ ν}

theorem not_holder_of_fresh (h : p.Fresh) : ¬ p.Holder := by
  obtain ⟨-, hsent, -, -⟩ := h
  rintro ⟨i, hi, -⟩
  simp [hsent] at hi

/-- A revocation, queued or not, makes nobody a holder. -/
theorem holder_of_send_revoke {queued : Bool} (hle : p.answered ≤ p.sent.length)
    (h : (p.send ⟨false, queued⟩).Holder) : p.Holder := by
  obtain ⟨i, hi, hno⟩ := h
  simp only [send, List.getElem?_append, List.getElem?_singleton] at hi hno
  split at hi
  · refine ⟨i, hi, fun j hij hj => ?_⟩
    have := hno j hij hj
    rwa [if_pos (by omega)] at this
  · split at hi <;> simp at hi

theorem holder_assign {role : Role} (h : (p.assign role).Holder) : p.Holder := h

/-- Answering only takes the right away. -/
theorem holder_of_answer {i : Nat} (hle : p.answered ≤ i) (h : (p.answer i).Holder) : p.Holder := by
  obtain ⟨k, hk, hno⟩ := h
  exact ⟨k, hk, fun j hkj hj => hno j hkj (by simp only [answer]; omega)⟩

/-- Answering the newest message, a revocation, ends the right. -/
theorem not_holder_of_answer {i : Nat} (hi : p.CanAnswer i) (hlen : i + 1 = p.sent.length)
    (hnew : p.NewestIs false) : ¬ (p.answer i).Holder := by
  rintro ⟨k, hk, hno⟩
  obtain ⟨grant, hgrant⟩ := hi.2
  obtain ⟨queued, hqueued⟩ := hnew
  have hi' : p.sent.length - 1 = i := by omega
  rw [hi', hgrant] at hqueued
  simp only [Option.some.injEq, Msg.mk.injEq] at hqueued
  obtain ⟨rfl, -⟩ := hqueued
  simp only [answer] at hk hno
  have hklt : k < p.sent.length := (List.getElem?_eq_some_iff.mp hk).1
  rcases Nat.lt_or_ge k i with hki | hki
  · exact hno i hki (by omega) hgrant
  · have hke : k = i := by omega
    subst hke
    simp [hgrant] at hk

theorem hasAnswered_send {grant : Bool} {m : Msg} (h : p.HasAnswered grant) :
    (p.send m).HasAnswered grant := by
  obtain ⟨i, hs, ha, hi⟩ := h
  have hlt : i < p.sent.length := (List.getElem?_eq_some_iff.mp hi).1
  exact ⟨i, hs, ha, by simpa [send, List.getElem?_append_left hlt] using hi⟩

theorem hasAnswered_answer {grant : Bool} {i : Nat} (hle : p.answered ≤ i)
    (h : p.HasAnswered grant) : (p.answer i).HasAnswered grant := by
  obtain ⟨k, hs, ha, hk⟩ := h
  exact ⟨k, hs, by simp only [answer]; omega, hk⟩

/-- Answering the newest message of the round is answering what it was. -/
theorem hasAnswered_of_answer_newest {grant : Bool} {i : Nat} (hi : p.CanAnswer i)
    (hlen : i + 1 = p.sent.length) (hstart : p.start < p.sent.length) (hnew : p.NewestIs grant) :
    (p.answer i).HasAnswered grant := by
  obtain ⟨grant', hgrant'⟩ := hi.2
  obtain ⟨queued, hqueued⟩ := hnew
  have hi' : p.sent.length - 1 = i := by omega
  rw [hi', hgrant'] at hqueued
  simp only [Option.some.injEq, Msg.mk.injEq] at hqueued
  obtain ⟨rfl, -⟩ := hqueued
  exact ⟨i, by simp only [answer]; omega, by simp only [answer]; omega, hgrant'⟩

theorem newestIs_send (m : Msg) : (p.send m).NewestIs m.grant :=
  ⟨m.queued, by simp [send]⟩

end Party

/-! ### Safety -/

/-- The invariant behind exclusion. -/
structure Safe (s : State κ ν) : Prop where
  /-- Only sent messages are answered. -/
  answered_le : ∀ p ∈ s.parties, p.answered ≤ p.sent.length
  /-- Whoever is waited for as revoked has a revocation as its newest message. -/
  revoked_newest : ∀ p ∈ s.parties, p.role = .revoked → p.NewestIs false
  /-- While revocations are out, a party outside the group is waited for or holds nothing. -/
  revoking : s.phase = .revoking →
    ∀ p ∈ s.parties, s.chosen p.node ∨ p.role = .revoked ∨ ¬ p.Holder
  /-- Grants are kept back only for the group. -/
  granted_chosen : s.phase = .revoking → ∀ p ∈ s.parties, p.role = .granted → s.chosen p.node
  /-- While grants are out, every holder is in the group. -/
  granting : s.phase = .granting → ∀ p ∈ s.parties, p.Holder → s.chosen p.node
  /-- Every holder is in the group granted last. -/
  holder_granted : ∀ p ∈ s.parties, p.Holder → s.granted p.node

/-- The invariant says nothing about a state of fresh parties. -/
theorem safe_of_fresh {s : State κ ν} (h : ∀ p ∈ s.parties, p.Fresh) : Safe s where
  answered_le p hp := by simp [(h p hp).2.2.1]
  revoked_newest p hp hrole := by simp [(h p hp).1] at hrole
  revoking _ p hp := .inr (.inr (Party.not_holder_of_fresh (h p hp)))
  granted_chosen _ p hp hrole := by simp [(h p hp).1] at hrole
  granting _ p hp hh := absurd hh (Party.not_holder_of_fresh (h p hp))
  holder_granted p hp hh := absurd hh (Party.not_holder_of_fresh (h p hp))

/-- Each clause of `Safe` is about single parties, so it survives when parties leave and
    fresh ones join. -/
theorem Safe.members {s s' : State κ ν} (h : Safe s) (hphase : s'.phase = s.phase)
    (hchosen : s'.chosen = s.chosen) (hgranted : s'.granted = s.granted)
    (hparties : ∀ p' ∈ s'.parties, p' ∈ s.parties ∨ p'.Fresh) : Safe s' where
  answered_le p hp := by
    rcases hparties p hp with hp | hf
    · exact h.answered_le p hp
    · simp [hf.2.2.1]
  revoked_newest p hp hrole := by
    rcases hparties p hp with hp | hf
    · exact h.revoked_newest p hp hrole
    · simp [hf.1] at hrole
  revoking hph p hp := by
    rw [hphase] at hph
    rw [hchosen]
    rcases hparties p hp with hp | hf
    · exact h.revoking hph p hp
    · exact .inr (.inr (Party.not_holder_of_fresh hf))
  granted_chosen hph p hp hrole := by
    rw [hphase] at hph
    rw [hchosen]
    rcases hparties p hp with hp | hf
    · exact h.granted_chosen hph p hp hrole
    · simp [hf.1] at hrole
  granting hph p hp hh := by
    rw [hphase] at hph
    rw [hchosen]
    rcases hparties p hp with hp | hf
    · exact h.granting hph p hp hh
    · exact absurd hh (Party.not_holder_of_fresh hf)
  holder_granted p hp hh := by
    rw [hgranted]
    rcases hparties p hp with hp | hf
    · exact h.holder_granted p hp hh
    · exact absurd hh (Party.not_holder_of_fresh hf)

/-- A new group is chosen: nobody gains the right, and everybody outside is waited for. -/
theorem Safe.revoke {s s' : State κ ν} (h : Safe s) (hphase : s'.phase = .revoking)
    (hgranted : s'.granted = s.granted)
    (hparties : ∀ p' ∈ s'.parties, ∃ p ∈ s.parties,
      (s'.chosen p.node ∧ p' = p.assign .granted) ∨
        ∃ queued, p' = (p.assign .revoked).send ⟨false, queued⟩) : Safe s' where
  answered_le p' hp' := by
    obtain ⟨p, hp, ⟨-, rfl⟩ | ⟨queued, rfl⟩⟩ := hparties p' hp'
    · exact h.answered_le p hp
    · have := h.answered_le p hp
      simp only [Party.send, Party.assign, List.length_append, List.length_singleton]
      omega
  revoked_newest p' hp' hrole := by
    obtain ⟨p, hp, ⟨-, rfl⟩ | ⟨queued, rfl⟩⟩ := hparties p' hp'
    · simp [Party.assign] at hrole
    · exact Party.newestIs_send _
  revoking _ p' hp' := by
    obtain ⟨p, hp, ⟨hc, rfl⟩ | ⟨queued, rfl⟩⟩ := hparties p' hp'
    · exact .inl hc
    · exact .inr (.inl rfl)
  granted_chosen _ p' hp' hrole := by
    obtain ⟨p, hp, ⟨hc, rfl⟩ | ⟨queued, rfl⟩⟩ := hparties p' hp'
    · exact hc
    · simp [Party.assign, Party.send] at hrole
  granting hph := by simp [hphase] at hph
  holder_granted p' hp' hh := by
    rw [hgranted]
    obtain ⟨p, hp, ⟨-, rfl⟩ | ⟨queued, rfl⟩⟩ := hparties p' hp'
    · exact h.holder_granted p hp (Party.holder_assign hh)
    · exact h.holder_granted p hp
        (Party.holder_assign (Party.holder_of_send_revoke (h.answered_le p hp) hh))

/-- Grants go out in a state where only members of the group can hold the right. -/
theorem safe_of_grants {s' : State κ ν} (hphase : s'.phase = .granting)
    (hgranted : s'.granted = s'.chosen)
    (hle : ∀ p' ∈ s'.parties, p'.answered ≤ p'.sent.length)
    (hrole : ∀ p' ∈ s'.parties, p'.role ≠ .revoked)
    (hholder : ∀ p' ∈ s'.parties, p'.Holder → s'.chosen p'.node) : Safe s' where
  answered_le := hle
  revoked_newest p' hp' hr := absurd hr (hrole p' hp')
  revoking hph := by simp [hphase] at hph
  granted_chosen hph := by simp [hphase] at hph
  granting _ := hholder
  holder_granted p' hp' hh := by rw [hgranted]; exact hholder p' hp' hh

/-- An answer takes the right away or leaves everything as it is. -/
theorem Safe.answer {s s' : State κ ν} {p : Party κ ν} {i : Nat} (h : Safe s)
    (hp : p ∈ s.parties) (hi : p.CanAnswer i) (hphase : s'.phase = s.phase)
    (hchosen : s'.chosen = s.chosen) (hgranted : s'.granted = s.granted)
    (hparties : ∀ p' ∈ s'.parties, p' ∈ s.parties ∨ p' = p.answer i) : Safe s' where
  answered_le p' hp' := by
    rcases hparties p' hp' with hp' | rfl
    · exact h.answered_le p' hp'
    · obtain ⟨grant, hgrant⟩ := hi.2
      have := (List.getElem?_eq_some_iff.mp hgrant).1
      simp only [Party.answer]
      omega
  revoked_newest p' hp' hrole := by
    rcases hparties p' hp' with hp' | rfl
    · exact h.revoked_newest p' hp' hrole
    · simp only [Party.answer] at hrole
      split at hrole
      · cases hrole
      · exact h.revoked_newest p hp hrole
  revoking hph p' hp' := by
    rw [hphase] at hph
    rw [hchosen]
    rcases hparties p' hp' with hp' | rfl
    · exact h.revoking hph p' hp'
    · rcases h.revoking hph p hp with hc | hr | hh
      · exact .inl hc
      · -- the newest message is the revocation it is waited for
        by_cases hlen : i + 1 = p.sent.length
        · exact .inr (.inr (Party.not_holder_of_answer hi hlen (h.revoked_newest p hp hr)))
        · exact .inr (.inl (by simp [Party.answer, hlen, hr]))
      · exact .inr (.inr fun h' => hh (Party.holder_of_answer hi.1 h'))
  granted_chosen hph p' hp' hrole := by
    rw [hphase] at hph
    rw [hchosen]
    rcases hparties p' hp' with hp' | rfl
    · exact h.granted_chosen hph p' hp' hrole
    · simp only [Party.answer] at hrole
      split at hrole
      · cases hrole
      · exact h.granted_chosen hph p hp hrole
  granting hph p' hp' hh := by
    rw [hphase] at hph
    rw [hchosen]
    rcases hparties p' hp' with hp' | rfl
    · exact h.granting hph p' hp' hh
    · exact h.granting hph p hp (Party.holder_of_answer hi.1 hh)
  holder_granted p' hp' hh := by
    rw [hgranted]
    rcases hparties p' hp' with hp' | rfl
    · exact h.holder_granted p' hp' hh
    · exact h.holder_granted p hp (Party.holder_of_answer hi.1 hh)

/-- Leaving both working phases needs nothing. -/
theorem Safe.rest {s s' : State κ ν} (h : Safe s)
    (hphase : s'.phase = .idle ∨ s'.phase = .suspended) (hgranted : s'.granted = s.granted)
    (hparties : ∀ p' ∈ s'.parties, p' ∈ s.parties) : Safe s' where
  answered_le p' hp' := h.answered_le p' (hparties p' hp')
  revoked_newest p' hp' := h.revoked_newest p' (hparties p' hp')
  revoking hph := by simp [hph] at hphase
  granted_chosen hph := by simp [hph] at hphase
  granting hph := by simp [hph] at hphase
  holder_granted p' hp' hh := by rw [hgranted]; exact h.holder_granted p' (hparties p' hp') hh

/-- Every step keeps `Safe`, whichever answers arrive. -/
theorem Safe.step {s s' : State κ ν} (h : Safe s) (hs : Step accept s s') : Safe s' := by
  cases hs with
  | members hphase hchosen hgranted hparties => exact h.members hphase hchosen hgranted hparties
  | restart hphase hparties => exact safe_of_fresh hparties
  | suspend hphase hgranted hparties => exact h.rest (.inr hphase) hgranted hparties
  | revoke hphase hgranted hparties => exact h.revoke hphase hgranted hparties
  | grant hphase hgranted hparties =>
    refine safe_of_grants hphase hgranted (fun p' hp' => ?_) (fun p' hp' => ?_) fun p' hp' _ => ?_
    · obtain ⟨p, hp, -, queued, rfl⟩ := hparties p' hp'
      have := h.answered_le p hp
      simp only [Party.send, Party.assign, List.length_append, List.length_singleton]
      omega
    · obtain ⟨p, hp, -, queued, rfl⟩ := hparties p' hp'
      simp [Party.send, Party.assign]
    · obtain ⟨p, hp, hc, queued, rfl⟩ := hparties p' hp'
      exact hc
  | answer hp hi _ hphase hchosen hgranted hparties =>
    exact h.answer hp hi hphase hchosen hgranted hparties
  | startGrants hrevoking hnone hphase hchosen hgranted hparties =>
    refine safe_of_grants hphase (by rw [hgranted, hchosen]) (fun p' hp' => ?_) (fun p' hp' => ?_)
      fun p' hp' hh => ?_
    · obtain ⟨p, hp, ⟨-, queued, rfl⟩ | ⟨-, rfl⟩⟩ := hparties p' hp'
      · have := h.answered_le p hp
        simp only [Party.send, List.length_append, List.length_singleton]
        omega
      · exact h.answered_le _ hp
    · obtain ⟨p, hp, ⟨hr, queued, rfl⟩ | ⟨-, rfl⟩⟩ := hparties p' hp'
      · simp [Party.send, hr]
      · exact hnone _ hp
    · rw [hchosen]
      obtain ⟨p, hp, ⟨hr, queued, rfl⟩ | ⟨-, rfl⟩⟩ := hparties p' hp'
      · exact h.granted_chosen hrevoking p hp hr
      · rcases h.revoking hrevoking _ hp with hc | hr | hno
        · exact hc
        · exact absurd hr (hnone _ hp)
        · exact absurd hh hno
  | finish hdone hnone hphase hgranted hparties =>
    exact h.rest (.inl hphase) hgranted hparties

theorem Safe.steps {s s' : State κ ν} (h : Safe s) (hs : Steps accept s s') : Safe s' := by
  induction hs with
  | refl => exact h
  | tail _ hstep ih => exact ih.step hstep

/-! ### Completeness of rounds -/

/-- The answer belongs to an earlier round: the party is waiting for its grant, which has
    not been sent yet. -/
def Stale (s : State κ ν) (p : Party κ ν) (i : Nat) : Prop :=
  s.phase = .revoking ∧ p.role = .granted ∧ i + 1 = p.sent.length

/-- The invariant behind completeness: what the current round still owes each party. -/
structure Complete (s : State κ ν) : Prop where
  revoking_revoked : s.phase = .revoking → ∀ p ∈ s.parties, p.assigned = .revoked →
    (p.role = .revoked ∧ p.start < p.sent.length ∧ p.NewestIs false) ∨ p.HasAnswered false
  revoking_granted : s.phase = .revoking → ∀ p ∈ s.parties, p.assigned = .granted →
    p.role = .granted ∧ p.start ≤ p.sent.length
  granting_revoked : s.phase = .granting → ∀ p ∈ s.parties, p.assigned = .revoked →
    p.HasAnswered false
  granting_granted : s.phase = .granting → ∀ p ∈ s.parties, p.assigned = .granted →
    (p.role = .granted ∧ p.start < p.sent.length ∧ p.NewestIs true) ∨ p.HasAnswered true

/-- Everything the round set out to do has been queued and answered. -/
def RoundDone (s : State κ ν) : Prop :=
  ∀ p ∈ s.parties, (p.assigned = .revoked → p.HasAnswered false) ∧
    (p.assigned = .granted → p.HasAnswered true)

theorem complete_of_rest {s : State κ ν} (hphase : s.phase = .idle ∨ s.phase = .suspended) :
    Complete s where
  revoking_revoked hph := by simp [hph] at hphase
  revoking_granted hph := by simp [hph] at hphase
  granting_revoked hph := by simp [hph] at hphase
  granting_granted hph := by simp [hph] at hphase

theorem Complete.members {s s' : State κ ν} (h : Complete s) (hphase : s'.phase = s.phase)
    (hparties : ∀ p' ∈ s'.parties, p' ∈ s.parties ∨ p'.Fresh) : Complete s' where
  revoking_revoked hph p hp hassigned := by
    rcases hparties p hp with hp | hf
    · exact h.revoking_revoked (hphase ▸ hph) p hp hassigned
    · simp [hf.2.2.2] at hassigned
  revoking_granted hph p hp hassigned := by
    rcases hparties p hp with hp | hf
    · exact h.revoking_granted (hphase ▸ hph) p hp hassigned
    · simp [hf.2.2.2] at hassigned
  granting_revoked hph p hp hassigned := by
    rcases hparties p hp with hp | hf
    · exact h.granting_revoked (hphase ▸ hph) p hp hassigned
    · simp [hf.2.2.2] at hassigned
  granting_granted hph p hp hassigned := by
    rcases hparties p hp with hp | hf
    · exact h.granting_granted (hphase ▸ hph) p hp hassigned
    · simp [hf.2.2.2] at hassigned

/-- What is owed stays owed until the newest message is answered; then it is done. -/
private theorem owed_answer {p : Party κ ν} {i : Nat} {role : Role} {grant : Bool}
    (hi : p.CanAnswer i)
    (h : (p.role = role ∧ p.start < p.sent.length ∧ p.NewestIs grant) ∨ p.HasAnswered grant) :
    ((p.answer i).role = role ∧ (p.answer i).start < (p.answer i).sent.length ∧
      (p.answer i).NewestIs grant) ∨ (p.answer i).HasAnswered grant := by
  rcases h with ⟨hr, hs, hn⟩ | ha
  · by_cases hlen : i + 1 = p.sent.length
    · exact .inr (Party.hasAnswered_of_answer_newest hi hlen hs hn)
    · exact .inl ⟨by simp [Party.answer, hlen, hr], hs, hn⟩
  · exact .inr (Party.hasAnswered_answer hi.1 ha)

theorem Complete.answer {s s' : State κ ν} {p : Party κ ν} {i : Nat} (h : Complete s)
    (hp : p ∈ s.parties) (hi : p.CanAnswer i) (hstale : ¬ Stale s p i)
    (hphase : s'.phase = s.phase)
    (hparties : ∀ p' ∈ s'.parties, p' ∈ s.parties ∨ p' = p.answer i) : Complete s' where
  revoking_revoked hph p' hp' hassigned := by
    rw [hphase] at hph
    rcases hparties p' hp' with hp' | rfl
    · exact h.revoking_revoked hph p' hp' hassigned
    · exact owed_answer hi (h.revoking_revoked hph p hp hassigned)
  revoking_granted hph p' hp' hassigned := by
    rw [hphase] at hph
    rcases hparties p' hp' with hp' | rfl
    · exact h.revoking_granted hph p' hp' hassigned
    · obtain ⟨hr, hs⟩ := h.revoking_granted hph p hp hassigned
      -- no grant is out, so the newest message belongs to an earlier round
      have hlen : i + 1 ≠ p.sent.length := fun hlen => hstale ⟨hph, hr, hlen⟩
      exact ⟨by simp [Party.answer, hlen, hr], hs⟩
  granting_revoked hph p' hp' hassigned := by
    rw [hphase] at hph
    rcases hparties p' hp' with hp' | rfl
    · exact h.granting_revoked hph p' hp' hassigned
    · exact Party.hasAnswered_answer hi.1 (h.granting_revoked hph p hp hassigned)
  granting_granted hph p' hp' hassigned := by
    rw [hphase] at hph
    rcases hparties p' hp' with hp' | rfl
    · exact h.granting_granted hph p' hp' hassigned
    · exact owed_answer hi (h.granting_granted hph p hp hassigned)

theorem complete_of_revoke {s s' : State κ ν} (hphase : s'.phase = .revoking)
    (hparties : ∀ p' ∈ s'.parties, ∃ p ∈ s.parties,
      (s'.chosen p.node ∧ p' = p.assign .granted) ∨
        ∃ queued, p' = (p.assign .revoked).send ⟨false, queued⟩) : Complete s' where
  revoking_revoked _ p' hp' hassigned := by
    obtain ⟨p, hp, ⟨-, rfl⟩ | ⟨queued, rfl⟩⟩ := hparties p' hp'
    · simp [Party.assign] at hassigned
    · exact .inl ⟨rfl, by simp [Party.send, Party.assign], Party.newestIs_send _⟩
  revoking_granted _ p' hp' hassigned := by
    obtain ⟨p, hp, ⟨-, rfl⟩ | ⟨queued, rfl⟩⟩ := hparties p' hp'
    · exact ⟨rfl, by simp [Party.assign]⟩
    · simp [Party.send, Party.assign] at hassigned
  granting_revoked hph := by simp [hphase] at hph
  granting_granted hph := by simp [hphase] at hph

theorem complete_of_grant {s s' : State κ ν} (hphase : s'.phase = .granting)
    (hparties : ∀ p' ∈ s'.parties, ∃ p ∈ s.parties, s'.chosen p.node ∧
      ∃ queued, p' = (p.assign .granted).send ⟨true, queued⟩) : Complete s' where
  revoking_revoked hph := by simp [hphase] at hph
  revoking_granted hph := by simp [hphase] at hph
  granting_revoked _ p' hp' hassigned := by
    obtain ⟨p, hp, -, queued, rfl⟩ := hparties p' hp'
    simp [Party.send, Party.assign] at hassigned
  granting_granted _ p' hp' hassigned := by
    obtain ⟨p, hp, -, queued, rfl⟩ := hparties p' hp'
    exact .inl ⟨rfl, by simp [Party.send, Party.assign], Party.newestIs_send _⟩

theorem Complete.startGrants {s s' : State κ ν} (h : Complete s) (hrevoking : s.phase = .revoking)
    (hnone : ∀ p ∈ s.parties, p.role ≠ .revoked) (hphase : s'.phase = .granting)
    (hparties : ∀ p' ∈ s'.parties, ∃ p ∈ s.parties,
      (p.role = .granted ∧ ∃ queued, p' = p.send ⟨true, queued⟩) ∨
        (p.role ≠ .granted ∧ p' = p)) : Complete s' where
  revoking_revoked hph := by simp [hphase] at hph
  revoking_granted hph := by simp [hphase] at hph
  granting_revoked _ p' hp' hassigned := by
    obtain ⟨p, hp, hcase⟩ := hparties p' hp'
    have hassigned' : p.assigned = .revoked := by
      rcases hcase with ⟨-, queued, rfl⟩ | ⟨-, rfl⟩
      · exact hassigned
      · exact hassigned
    rcases h.revoking_revoked hrevoking p hp hassigned' with ⟨hr, -⟩ | ha
    · exact absurd hr (hnone p hp)
    · rcases hcase with ⟨-, queued, rfl⟩ | ⟨-, rfl⟩
      · exact Party.hasAnswered_send ha
      · exact ha
  granting_granted _ p' hp' hassigned := by
    obtain ⟨p, hp, ⟨hr, queued, rfl⟩ | ⟨hr, rfl⟩⟩ := hparties p' hp'
    · obtain ⟨-, hs⟩ := h.revoking_granted hrevoking p hp hassigned
      refine .inl ⟨hr, ?_, Party.newestIs_send _⟩
      simp only [Party.send, List.length_append, List.length_singleton]
      omega
    · exact absurd (h.revoking_granted hrevoking _ hp hassigned).1 hr

/-- Every step keeps `Complete` as long as no stale answer arrives. -/
theorem Complete.step {s s' : State κ ν} (h : Complete s)
    (hs : Step (fun s p i => ¬ Stale s p i) s s') : Complete s' := by
  cases hs with
  | members hphase hchosen hgranted hparties => exact h.members hphase hparties
  | restart hphase hparties => exact complete_of_rest (.inl hphase)
  | suspend hphase hgranted hparties => exact complete_of_rest (.inr hphase)
  | revoke hphase hgranted hparties => exact complete_of_revoke hphase hparties
  | grant hphase hgranted hparties => exact complete_of_grant hphase hparties
  | answer hp hi haccept hphase hchosen hgranted hparties =>
    exact h.answer hp hi haccept hphase hparties
  | startGrants hrevoking hnone hphase hchosen hgranted hparties =>
    exact h.startGrants hrevoking hnone hphase hparties
  | finish hdone hnone hphase hgranted hparties => exact complete_of_rest (.inl hphase)

theorem Complete.steps {s s' : State κ ν} (h : Complete s)
    (hs : Steps (fun s p i => ¬ Stale s p i) s s') : Complete s' := by
  induction hs with
  | refl => exact h
  | tail _ hstep ih => exact ih.step hstep

/-- A round that has nothing left to wait for has done everything it set out to do. -/
theorem Complete.roundDone {s : State κ ν} (h : Complete s)
    (hdone : (s.phase = .revoking ∧ ∀ p ∈ s.parties, p.role ≠ .revoked) ∨ s.phase = .granting)
    (hnone : ∀ p ∈ s.parties, p.role ≠ .granted) : RoundDone s := by
  intro p hp
  rcases hdone with ⟨hph, hrev⟩ | hph
  · refine ⟨fun ha => ?_, fun ha => ?_⟩
    · rcases h.revoking_revoked hph p hp ha with ⟨hr, -⟩ | hd
      · exact absurd hr (hrev p hp)
      · exact hd
    · exact absurd (h.revoking_granted hph p hp ha).1 (hnone p hp)
  · refine ⟨h.granting_revoked hph p hp, fun ha => ?_⟩
    rcases h.granting_granted hph p hp ha with ⟨hr, -⟩ | hd
    · exact absurd hr (hnone p hp)
    · exact hd

end Handover
