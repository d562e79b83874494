import CloudReconcile.Operator.Error

/-!
# Failures in layers

The failure of a round comes wrapped in a layer that says whether the object was being applied or
cleaned up, and such a failure can be wrapped again.  Whatever is asked about a failure is answered
by what is inside all layers; only its message and its causes tell of the layers, one after the
other from the outside.
-/

namespace CloudReconcile

/-- What the finalizer was guarding when the work failed. -/
inductive Layer where
  | applying
  | cleaningUp
deriving DecidableEq, Repr

namespace Layer

def around : Layer → OperatorError → FinalizerError
  | .applying => .applyFailed
  | .cleaningUp => .cleanupFailed

def words : Layer → String
  | .applying => "failed to apply object: "
  | .cleaningUp => "failed to clean up object: "

/-- What layers put before a message, the outermost first. -/
def opening (layers : List Layer) : String :=
  layers.foldr (fun layer rest => "Finalizer error: " ++ (layer.words ++ rest)) ""

/-- What layers around a failure with this message add to its causes: the failure of the finalizer,
then what it wraps, for one layer after the other. -/
def entries (message : String) : List Layer → List String
  | [] => []
  | layer :: rest =>
    (layer.words ++ (opening rest ++ message)) :: (opening rest ++ message) :: entries message rest

theorem length_entries (message : String) (layers : List Layer) :
    (entries message layers).length = 2 * layers.length := by
  induction layers with
  | nil => rfl
  | cons layer rest ih =>
      simp only [entries, List.length_cons, ih]
      omega

end Layer

namespace OperatorError

/-- A failure in layers, the first of them outermost. -/
def wrap : List Layer → OperatorError → OperatorError
  | [], e => e
  | layer :: rest, e => .finalizer (layer.around (wrap rest e))

/-- A failure with no layer around it. -/
def IsBare : OperatorError → Prop
  | .finalizer (.applyFailed _) | .finalizer (.cleanupFailed _) => False
  | _ => True

theorem exists_layers : ∀ e : OperatorError, ∃ layers bare, e = wrap layers bare ∧ bare.IsBare
  | .finalizer (.applyFailed inner) => by
      obtain ⟨layers, bare, rfl, isBare⟩ := exists_layers inner
      exact ⟨.applying :: layers, bare, rfl, isBare⟩
  | .finalizer (.cleanupFailed inner) => by
      obtain ⟨layers, bare, rfl, isBare⟩ := exists_layers inner
      exact ⟨.cleaningUp :: layers, bare, rfl, isBare⟩
  | .finalizer .addFailed => ⟨[], _, rfl, trivial⟩
  | .finalizer .removeFailed => ⟨[], _, rfl, trivial⟩
  | .finalizer .unnamedObject => ⟨[], _, rfl, trivial⟩
  | .finalizer .invalidFinalizer => ⟨[], _, rfl, trivial⟩
  | .cluster => ⟨[], _, rfl, trivial⟩
  | .serialization => ⟨[], _, rfl, trivial⟩
  | .managed _ => ⟨[], _, rfl, trivial⟩

/-! ## Through the layers -/

theorem managed?_wrap (layers : List Layer) (e : OperatorError) :
    (wrap layers e).managed? = e.managed? := by
  induction layers with
  | nil => rfl
  | cons layer rest ih => cases layer <;> exact ih

theorem isRetryable_wrap (layers : List Layer) (e : OperatorError) :
    (wrap layers e).isRetryable = e.isRetryable := by
  rw [isRetryable, managed?_wrap, isRetryable]

/-! ## One layer -/

theorem message_layer (w : Wording) (layer : Layer) (e : OperatorError) :
    (finalizer (layer.around e)).message w =
      "Finalizer error: " ++ (layer.words ++ e.message w) := by
  cases layer <;> rfl

theorem sources_layer (w : Wording) (layer : Layer) (e : OperatorError) :
    (finalizer (layer.around e)).sources w =
      (layer.words ++ e.message w) :: e.message w :: e.sources w := by
  cases layer <;> rfl

theorem isWorded_layer (layer : Layer) (e : OperatorError) :
    (finalizer (layer.around e)).isWorded = e.isWorded := by
  cases layer <;> rfl

/-! ## Any number of layers -/

theorem message_wrap (w : Wording) (layers : List Layer) (e : OperatorError) :
    (wrap layers e).message w = Layer.opening layers ++ e.message w := by
  induction layers with
  | nil => exact String.empty_append.symm
  | cons layer rest ih =>
      rw [wrap, message_layer, ih]
      simp only [Layer.opening, List.foldr_cons, String.append_assoc]

theorem sources_wrap (w : Wording) (layers : List Layer) (e : OperatorError) :
    (wrap layers e).sources w = Layer.entries (e.message w) layers ++ e.sources w := by
  induction layers with
  | nil => rfl
  | cons layer rest ih =>
      rw [wrap, sources_layer, ih, message_wrap]
      rfl

theorem isWorded_wrap (layers : List Layer) (e : OperatorError) :
    (wrap layers e).isWorded = e.isWorded := by
  induction layers with
  | nil => rfl
  | cons layer rest ih => rw [wrap, isWorded_layer, ih]

theorem message?_wrap (layers : List Layer) (e : OperatorError) :
    (wrap layers e).message? = e.message?.map (Layer.opening layers ++ ·) := by
  rw [message?, isWorded_wrap, message_wrap, message?]
  cases e.isWorded <;> rfl

/-! ## What is inside -/

theorem eq_managed_of_isBare {bare : OperatorError} {m : ManagedError} (isBare : bare.IsBare)
    (shows : bare.managed? = some m) : bare = .managed m := by
  cases bare with
  | managed inside => exact congrArg managed (Option.some.inj shows)
  | cluster => cases shows
  | serialization => cases shows
  | finalizer cause =>
      cases cause with
      | applyFailed inner | cleanupFailed inner => cases isBare
      | addFailed | removeFailed | unnamedObject | invalidFinalizer => cases shows

/-- A step's failure that shows through is inside layers and nothing else. -/
theorem managed?_eq_some_iff {e : OperatorError} {m : ManagedError} :
    e.managed? = some m ↔ ∃ layers, e = wrap layers (.managed m) := by
  constructor
  · intro shows
    obtain ⟨layers, bare, rfl, isBare⟩ := exists_layers e
    rw [managed?_wrap] at shows
    exact ⟨layers, congrArg (wrap layers) (eq_managed_of_isBare isBare shows)⟩
  · rintro ⟨layers, rfl⟩
    exact managed?_wrap layers (.managed m)

/-- Only a step's failure with no trouble on the way behind it calls for somebody to change
something. -/
theorem isRetryable_eq_false_iff (e : OperatorError) :
    e.isRetryable = false ↔ ∃ layers m, e = wrap layers (.managed m) ∧
      ∀ cause ∈ m.cause?, cause.isTransport = false := by
  have refused (m : ManagedError) :
      m.isRetryable = false ↔ ∀ cause ∈ m.cause?, cause.isTransport = false := by
    cases m <;> simp [ManagedError.isRetryable, ManagedError.cause?]
  constructor
  · intro stuck
    unfold isRetryable at stuck
    cases shows : e.managed? with
    | none =>
        rw [shows] at stuck
        cases stuck
    | some m =>
        rw [shows] at stuck
        obtain ⟨layers, rfl⟩ := managed?_eq_some_iff.mp shows
        exact ⟨layers, m, rfl, (refused m).mp stuck⟩
  · rintro ⟨layers, m, rfl, trouble⟩
    rw [isRetryable_wrap]
    exact (refused m).mpr trouble

theorem isMisuse_iff (e : OperatorError) :
    e.isMisuse = true ↔ ∃ layers expected, e = wrap layers (.managed (.misuse expected)) := by
  constructor
  · intro misuse
    unfold isMisuse at misuse
    cases shows : e.managed? with
    | none =>
        rw [shows] at misuse
        cases misuse
    | some m =>
        rw [shows] at misuse
        obtain ⟨layers, rfl⟩ := managed?_eq_some_iff.mp shows
        cases m with
        | misuse expected => exact ⟨layers, expected, rfl⟩
        | remote phase resource cause => cases misuse
  · rintro ⟨layers, expected, rfl⟩
    rw [isMisuse, managed?_wrap]
    rfl

theorem phase?_eq_some_iff (e : OperatorError) (phase : Phase) :
    e.phase? = some phase ↔
      ∃ layers resource cause, e = wrap layers (.managed (.remote phase resource cause)) := by
  constructor
  · intro known
    obtain ⟨m, shows, own⟩ := Option.bind_eq_some_iff.mp known
    obtain ⟨layers, rfl⟩ := managed?_eq_some_iff.mp shows
    cases m with
    | remote phase' resource cause =>
        obtain rfl := Option.some.inj own
        exact ⟨layers, resource, cause, rfl⟩
    | misuse expected => cases own
  · rintro ⟨layers, resource, cause, rfl⟩
    rw [phase?, managed?_wrap]
    rfl

/-! ## Words of its own -/

/-- The failure words itself, the same way whatever others say, or leaves that to others. -/
def IsConsistent (w : Wording) (e : OperatorError) : Prop :=
  e.message? = some (e.message w) ∧ e.sources? = some (e.sources w) ∨
    e.message? = none ∧ e.sources? = none

/-- Where the operator has all the words, those of others make no difference. -/
theorem words_eq_of_isWorded {e : OperatorError} (worded : e.isWorded = true) (w w' : Wording) :
    e.message w = e.message w' ∧ e.sources w = e.sources w' := by
  obtain ⟨layers, bare, rfl, isBare⟩ := exists_layers e
  rw [isWorded_wrap] at worded
  have same : bare.message w = bare.message w' ∧ bare.sources w = bare.sources w' := by
    cases bare with
    | managed cause => exact ⟨rfl, rfl⟩
    | cluster | serialization => cases worded
    | finalizer cause =>
        cases cause with
        | applyFailed inner | cleanupFailed inner => cases isBare
        | addFailed | removeFailed => cases worded
        | unnamedObject | invalidFinalizer => exact ⟨rfl, rfl⟩
  rw [message_wrap, message_wrap, sources_wrap, sources_wrap, same.1, same.2]
  exact ⟨rfl, rfl⟩

theorem isConsistent (w : Wording) (e : OperatorError) : e.IsConsistent w := by
  unfold IsConsistent message? sources?
  cases worded : e.isWorded with
  | true =>
      obtain ⟨message, sources⟩ := words_eq_of_isWorded worded .silent w
      exact .inl ⟨congrArg some message, congrArg some sources⟩
  | false => exact .inr ⟨rfl, rfl⟩

/-- Behind any number of layers, everything that is asked about a failure is answered by the failure
inside: a step's failure has its phase or is a misuse, and only one without trouble on the way does
not clear up.  Layers put their words before the message and two causes each before the causes. -/
theorem wrap_observations (w : Wording) (layers : List Layer) (e : OperatorError) :
    (wrap layers e).managed? = e.managed? ∧ (wrap layers e).phase? = e.phase? ∧
      (wrap layers e).isMisuse = e.isMisuse ∧ (wrap layers e).isRetryable = e.isRetryable ∧
      (∀ phase, e.phase? = some phase ↔
        ∃ inner resource cause, e = wrap inner (.managed (.remote phase resource cause))) ∧
      (e.isMisuse = true ↔ ∃ inner expected, e = wrap inner (.managed (.misuse expected))) ∧
      (e.isRetryable = false ↔ ∃ inner m, e = wrap inner (.managed m) ∧
        ∀ cause ∈ m.cause?, cause.isTransport = false) ∧
      (∀ inner, ∀ bare ∈ [.cluster, .serialization, .finalizer .addFailed,
        .finalizer .removeFailed, .finalizer .unnamedObject, .finalizer .invalidFinalizer],
        (wrap inner bare).isRetryable = true) ∧
      (wrap layers e).message w = Layer.opening layers ++ e.message w ∧
      (wrap layers e).sources w = Layer.entries (e.message w) layers ++ e.sources w ∧
      (Layer.entries (e.message w) layers).length = 2 * layers.length ∧
      (∀ m, (OperatorError.managed m).sources w = (m.cause?.map RemoteError.message).toList) ∧
      (wrap layers e).message? = e.message?.map (Layer.opening layers ++ ·) ∧
      ∀ other : OperatorError, other.IsConsistent w := by
  have seen := managed?_wrap layers e
  refine ⟨seen, ?_, ?_, isRetryable_wrap layers e, phase?_eq_some_iff e, isMisuse_iff e,
    isRetryable_eq_false_iff e, ?_, message_wrap w layers e, sources_wrap w layers e,
    Layer.length_entries _ layers, fun m => rfl, message?_wrap layers e, isConsistent w⟩
  · rw [phase?, seen, phase?]
  · rw [isMisuse, seen, isMisuse]
  · intro inner bare which
    rw [isRetryable_wrap]
    simp only [List.mem_cons, List.not_mem_nil, or_false] at which
    rcases which with rfl | rfl | rfl | rfl | rfl | rfl <;> rfl

end OperatorError
end CloudReconcile
