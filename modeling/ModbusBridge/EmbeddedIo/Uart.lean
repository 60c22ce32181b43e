import ModbusBridge.EmbeddedIo.Device

/-!
This module contains a serial port in time. Its time advances by one tick with every operation, and a
script says for every tick which bytes come in until the operation is over and how the operation goes.
Bytes are read in the order in which they came in. As the script is arbitrary, so is the device at the
other end of the line.
-/

namespace EmbeddedIo

structure Stamped where
  byte : UInt8
  tick : Nat
  deriving DecidableEq, Repr

namespace Uart

structure Tick where
  arrivals : List UInt8
  limit : Option Nat
  polls : Nat
  fault : Bool

def Tick.idle : Tick := ⟨[], none, 0, false⟩

end Uart

structure Uart where
  script : Nat → Uart.Tick
  now : Nat
  arrived : List Stamped
  taken : Nat
  written : List Stamped
  ordered : arrived.Pairwise (·.tick ≤ ·.tick)
  past : ∀ b ∈ arrived, b.tick < now
  taken_le : taken ≤ arrived.length

namespace Uart

def start (script : Nat → Tick) : Uart where
  script
  now := 0
  arrived := []
  taken := 0
  written := []
  ordered := List.Pairwise.nil
  past := by simp
  taken_le := Nat.le_refl 0

def stamp (tick : Nat) (bytes : List UInt8) : List Stamped := bytes.map fun byte => { byte, tick }

theorem tick_of_mem_stamp (h : b ∈ stamp tick bytes) : b.tick = tick := by
  obtain ⟨_, _, rfl⟩ := List.mem_map.mp h
  rfl

theorem byte_stamp (tick : Nat) (bytes : List UInt8) : (stamp tick bytes).map Stamped.byte = bytes := by
  unfold stamp
  rw [List.map_map]
  apply List.map_id

def current (p : Uart) : Tick := p.script p.now

def pass (p : Uart) : Uart where
  script := p.script
  now := p.now + 1
  arrived := p.arrived ++ stamp p.now p.current.arrivals
  taken := p.taken
  written := p.written
  ordered := by
    rw [List.pairwise_append]
    refine ⟨p.ordered, ?_, ?_⟩
    . rw [List.pairwise_iff_forall_sublist]
      intro a b hab
      have ha := tick_of_mem_stamp (hab.subset List.mem_cons_self)
      have hb := tick_of_mem_stamp (hab.subset (List.mem_cons_of_mem _ List.mem_cons_self))
      omega
    . intro a ha b hb
      have := p.past a ha
      have := tick_of_mem_stamp hb
      omega
  past := by
    intro b hb
    cases List.mem_append.mp hb with
    | inl hb =>
      have := p.past b hb
      omega
    | inr hb =>
      have := tick_of_mem_stamp hb
      omega
  taken_le := by
    have := p.taken_le
    rw [List.length_append]
    omega

def unread (p : Uart) : List Stamped := p.arrived.drop p.taken

def take (p : Uart) (n : Nat) : Uart :=
  { p with
    taken := p.taken + (p.unread.take n).length
    taken_le := by
      have := p.taken_le
      rw [List.length_take, unread, List.length_drop]
      omega }

def accept (p : Uart) (bytes : List UInt8) : Uart :=
  { p with written := p.written ++ stamp (p.now - 1) bytes }

def perform (p : Uart) (a : α) (next : Uart) : Completion Uart Unit α :=
  if p.current.fault then
    { polls := p.current.polls, result := .error (), next := p.pass, dropped := p.pass }
  else
    { polls := p.current.polls, result := .ok a, next, dropped := p.pass }

theorem answer_perform (p : Uart) (a : α) (next : Uart) (deadline : Option Nat)
    : (∃ e, (p.perform a next).answer deadline = (.error e, p.pass))
        ∨ (p.perform a next).answer deadline = (.ok a, next) := by
  unfold perform Completion.answer
  split
  . left
    split
    . exact ⟨_, rfl⟩
    . exact ⟨_, rfl⟩
  . split
    . left
      exact ⟨_, rfl⟩
    . right
      rfl

instance : Device Uart Unit where
  read p n :=
    let k := grant p.current.limit n
    have hle : ((p.pass.unread.take k).map Stamped.byte).length ≤ n := by
      have := grant_le p.current.limit n
      simp only [k, List.length_map, List.length_take]
      omega
    p.perform ⟨(p.pass.unread.take k).map Stamped.byte, hle⟩ (p.pass.take k)
  write p buf hbuf :=
    let n := grant p.current.limit buf.length
    have hn : 0 < n ∧ n ≤ buf.length :=
      ⟨grant_pos _ (List.length_pos_iff.mpr hbuf), grant_le _ _⟩
    p.perform ⟨n, hn⟩ (p.pass.accept (buf.take n))
  flush p := p.perform () p.pass

instance : ReadReady Uart Unit where
  readReady p := (if p.current.fault then .error () else .ok (!p.pass.unread.isEmpty), p.pass)

/--
`Ran rx tx p p'`: `p'` comes after `p`, and in between `rx` has been read and `tx` accepted.
-/
structure Ran (rx tx : List UInt8) (p p' : Uart) : Prop where
  arrived : ∃ news, p'.arrived = p.arrived ++ news
  written : ∃ news, p'.written = p.written ++ news ∧ news.map Stamped.byte = tx
    ∧ ∀ b ∈ news, p.now ≤ b.tick
  taken : p'.taken = p.taken + rx.length
  rx_eq : ((p'.arrived.drop p.taken).take rx.length).map Stamped.byte = rx
  now : p.now ≤ p'.now

namespace Ran

variable {p p₁ p' : Uart}

theorem refl (p : Uart) : Ran [] [] p p where
  arrived := ⟨[], by simp⟩
  written := ⟨[], by simp⟩
  taken := rfl
  rx_eq := rfl
  now := Nat.le_refl _

theorem trans (h₁ : Ran rx₁ tx₁ p p₁) (h₂ : Ran rx₂ tx₂ p₁ p')
    : Ran (rx₁ ++ rx₂) (tx₁ ++ tx₂) p p' := by
  obtain ⟨news₁, harrived₁⟩ := h₁.arrived
  obtain ⟨news₂, harrived₂⟩ := h₂.arrived
  obtain ⟨writes₁, hwritten₁, htx₁, hticks₁⟩ := h₁.written
  obtain ⟨writes₂, hwritten₂, htx₂, hticks₂⟩ := h₂.written
  have hnow := h₁.now
  refine ⟨?_, ?_, ?_, ?_, ?_⟩
  . refine ⟨news₁ ++ news₂, ?_⟩
    rw [harrived₂, harrived₁, List.append_assoc]
  . refine ⟨writes₁ ++ writes₂, ?_, ?_, ?_⟩
    . rw [hwritten₂, hwritten₁, List.append_assoc]
    . rw [List.map_append, htx₁, htx₂]
    . intro b hb
      cases List.mem_append.mp hb with
      | inl hb => apply hticks₁ b hb
      | inr hb =>
        have := hticks₂ b hb
        omega
  . rw [h₂.taken, h₁.taken, List.length_append]
    omega
  . -- What was read first was there at `p₁` already, so later arrivals do not change it.
    have hle : p.taken + rx₁.length ≤ p₁.arrived.length := by
      have := p₁.taken_le
      rw [h₁.taken] at this
      exact this
    have hfirst : (p'.arrived.drop p.taken).take rx₁.length
        = (p₁.arrived.drop p.taken).take rx₁.length := by
      rw [harrived₂, List.drop_append_of_le_length (by omega)]
      rw [List.take_append_of_le_length (by rw [List.length_drop]; omega)]
    rw [List.length_append, List.take_add, List.drop_drop, List.map_append]
    rw [hfirst, h₁.rx_eq, ← h₁.taken, h₂.rx_eq]
  . have := h₂.now
    omega

theorem pass (p : Uart) : Ran [] [] p p.pass where
  arrived := ⟨_, rfl⟩
  written := ⟨[], by simp [Uart.pass]⟩
  taken := rfl
  rx_eq := rfl
  now := Nat.le_succ _

theorem take (p : Uart) (n : Nat) : Ran ((p.unread.take n).map Stamped.byte) [] p (p.take n) where
  arrived := ⟨[], by simp [Uart.take]⟩
  written := ⟨[], by simp [Uart.take]⟩
  taken := by simp [Uart.take]
  rx_eq := by
    show (p.unread.take _).map _ = _
    rw [List.length_map, List.length_take, ← List.take_eq_take_min]
  now := Nat.le_refl _

theorem accept (p : Uart) (bytes : List UInt8) : Ran [] bytes p (p.pass.accept bytes) where
  arrived := ⟨_, rfl⟩
  written := by
    refine ⟨stamp p.now bytes, rfl, byte_stamp _ _, ?_⟩
    intro b hb
    have := tick_of_mem_stamp hb
    omega
  taken := rfl
  rx_eq := rfl
  now := Nat.le_succ _

def writes (p p' : Uart) : List Stamped := p'.written.drop p.written.length

def arrivals (p p' : Uart) : List Stamped := p'.arrived.drop p.arrived.length

/--
Every byte of the first list came in after every byte of the second one was accepted.
-/
def After (bs ws : List Stamped) : Prop := ∀ b ∈ bs, ∀ w ∈ ws, w.tick < b.tick

instance : Decidable (After bs ws) :=
  inferInstanceAs (Decidable (∀ b ∈ bs, ∀ w ∈ ws, w.tick < b.tick))

theorem after_append {bs bs' ws : List Stamped} : After (bs ++ bs') ws ↔ After bs ws ∧ After bs' ws := by
  apply List.forall_mem_append

theorem after_take_iff {bs ws : List Stamped} (hordered : bs.Pairwise (·.tick ≤ ·.tick)) (hpos : 0 < n)
    : After (bs.take n) ws ↔ After bs ws := by
  constructor
  . intro hafter
    cases bs with
    | nil =>
      intro b hb
      contradiction
    | cons first rest =>
      -- The first byte came in before all the others.
      have hrest := (List.pairwise_cons.mp hordered).1
      have hfirst : first ∈ (first :: rest).take n := by
        rw [List.take_cons hpos]
        apply List.mem_cons_self
      intro b hb w hw
      have hlate := hafter first hfirst w hw
      cases List.mem_cons.mp hb with
      | inl hb =>
        rw [hb]
        apply hlate
      | inr hb =>
        have := hrest b hb
        omega
  . intro hafter b hb
    apply hafter b (List.mem_of_mem_take hb)

theorem queue_eq (h : Ran rx tx p p') : p'.arrived.drop p.taken = p.unread ++ arrivals p p' := by
  obtain ⟨news, harrived⟩ := h.arrived
  unfold arrivals
  rw [harrived, List.drop_left, List.drop_append_of_le_length p.taken_le]
  rfl

/--
What was left in the queue had come in before anything was written.
-/
theorem after_unread_iff (h : Ran rx tx p p') (htx : tx ≠ []) : After p.unread (writes p p') ↔ p.unread = [] := by
  obtain ⟨ws, hwritten, hmap, hticks⟩ := h.written
  have hwrites : writes p p' = ws := by
    unfold writes
    rw [hwritten, List.drop_left]
  obtain ⟨w, hw⟩ : ∃ w, w ∈ ws := by
    apply List.exists_mem_of_ne_nil
    intro hnil
    rw [hnil] at hmap
    exact htx hmap.symm
  rw [hwrites]
  constructor
  . intro hafter
    rw [List.eq_nil_iff_forall_not_mem]
    intro b hb
    have hlate := hafter b hb w hw
    have hold := p.past b (List.mem_of_mem_drop hb)
    have := hticks w hw
    omega
  . intro hunread b hb
    rw [hunread] at hb
    contradiction

/--
The first bytes that were read came in after everything that was written, if and only if nothing was
left in the queue before and nothing came in until everything was written.
-/
theorem after_iff (h : Ran rx tx p p') (htx : tx ≠ []) (hpos : 0 < n)
    : After ((p'.arrived.drop p.taken).take n) (writes p p')
        ↔
      p.unread = [] ∧ After (arrivals p p') (writes p p') := by
  have hordered : (p'.arrived.drop p.taken).Pairwise (·.tick ≤ ·.tick) := p'.ordered.drop
  rw [after_take_iff hordered hpos, h.queue_eq, after_append, h.after_unread_iff htx]

end Ran

end Uart

end EmbeddedIo
