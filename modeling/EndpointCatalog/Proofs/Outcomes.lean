namespace EndpointCatalog.Source

theorem bind_isOk {x : Except ε α} {f : α → Except ε β} :
    (x >>= f).isOk = true ↔ ∃ value, x = .ok value ∧ (f value).isOk = true := by
  cases x with
  | error e => simp [bind, Except.bind, Except.isOk, Except.toBool]
  | ok value => simp [bind, Except.bind]

theorem isOk_iff {x : Except ε α} : x.isOk = true ↔ ∃ value, x = .ok value := by
  cases x <;> simp [Except.isOk, Except.toBool]

theorem notOk_iff {x : Except ε α} : x.isOk = false ↔ ∃ e, x = .error e := by
  cases x <;> simp [Except.isOk, Except.toBool]

theorem bind_both {x : Except ε α} {f : α → Except ε β}
    (next : ∀ value, (f value).isOk = true ↔ Q) : (x >>= f).isOk = true ↔ x.isOk = true ∧ Q := by
  rw [bind_isOk, isOk_iff]
  simp only [next]
  exact exists_and_right

theorem mapM_isOk {f : α → Except ε β} {items : List α} :
    (items.mapM f).isOk = true ↔ ∀ item ∈ items, (f item).isOk = true := by
  induction items with
  | nil => simp [pure, Except.pure, Except.isOk, Except.toBool]
  | cons item rest ih =>
    rw [List.mapM_cons, bind_isOk, List.forall_mem_cons, ← ih, isOk_iff]
    constructor
    · rintro ⟨value, own, later⟩
      obtain ⟨values, others, -⟩ := bind_isOk.mp later
      exact ⟨⟨value, own⟩, isOk_iff.mpr ⟨values, others⟩⟩
    · rintro ⟨⟨value, own⟩, later⟩
      obtain ⟨values, others⟩ := isOk_iff.mp later
      exact ⟨value, own, bind_isOk.mpr ⟨values, others, rfl⟩⟩

theorem bind_gives {x : Except ε α} {f : α → Except ε β} :
    (x >>= f) = .ok result ↔ ∃ value, x = .ok value ∧ f value = .ok result := by
  cases x <;> simp [bind, Except.bind]

theorem bind_fails {x : Except ε α} {f : α → Except ε β} :
    (x >>= f) = .error e ↔ x = .error e ∨ ∃ value, x = .ok value ∧ f value = .error e := by
  cases x <;> simp [bind, Except.bind]

theorem bind_ok {x : Except ε α} {f : α → Except ε β} (made : (x >>= f) = .ok result) :
    ∃ value, x = .ok value ∧ f value = .ok result := bind_gives.mp made

theorem foldlM_keeps {step : σ → α → Except ε σ} (view : σ → β)
    (keeps : ∀ state item next, step state item = .ok next → view next = view state)
    {items : List α} {start final : σ} (ran : items.foldlM step start = .ok final) :
    view final = view start := by
  induction items generalizing start with
  | nil =>
    cases ran
    rfl
  | cons item rest ih =>
    rw [List.foldlM_cons] at ran
    obtain ⟨next, own, later⟩ := bind_ok ran
    rw [ih later, keeps start item next own]

theorem foldlM_mono {f g : σ → α → Except ε σ} {items : List α} {start stop : σ}
    (mono : ∀ state item next, f state item = .ok next → g state item = .ok next)
    (ran : items.foldlM f start = .ok stop) : items.foldlM g start = .ok stop := by
  induction items generalizing start with
  | nil => exact ran
  | cons item rest ih =>
    rw [List.foldlM_cons] at ran ⊢
    obtain ⟨next, first, later⟩ := bind_ok ran
    exact bind_gives.mpr ⟨next, mono start item next first, ih later⟩

theorem foldlM_isOk {step : σ → α → Except ε σ} {P : α → Prop} {items : List α} {start : σ}
    (steps : ∀ state item, (step state item).isOk = true ↔ P item) :
    (items.foldlM step start).isOk = true ↔ ∀ item ∈ items, P item := by
  induction items generalizing start with
  | nil => simp [pure, Except.pure, Except.isOk, Except.toBool]
  | cons item rest ih =>
    rw [List.foldlM_cons, bind_isOk, List.forall_mem_cons, ← steps start item, isOk_iff]
    constructor
    · rintro ⟨next, own, later⟩
      exact ⟨⟨next, own⟩, ih.mp later⟩
    · rintro ⟨⟨next, own⟩, later⟩
      exact ⟨next, own, ih.mpr later⟩

end EndpointCatalog.Source
