import PlatformDouble.Host.Cast
import PlatformDouble.Proofs.Table.Order

namespace PlatformDouble.Cast

/-!
# Scripts of a cast

Taking a turn shortens one script and changes nothing else of a cast: no other
script, and nothing that is seen of a service or of a connection.  So there is one
turn less to be played, which is why requests cannot nest without end.
-/

variable (cast : Cast) (callback : Callback) (script : Script)

/-- A script in the place of another changes no script but that one. -/
theorem script_withScript
    (other : Callback) :
    (cast.withScript callback script).script other =
      if callback = other then script else cast.script other := by
  cases callback with
  | binderOf service =>
      cases other with
      | binderOf asked =>
          by_cases same : service = asked <;>
            simp [withScript, Cast.script, Cast.service, Table.get?_insert, same]
      | _ =>
          rfl
  | connected told =>
      cases other with
      | binderOf asked =>
          rfl
      | connected connection =>
          by_cases same : told = connection <;>
            simp [withScript, Cast.script, Cast.connection, Table.get?_insert, same]
      | disconnected connection =>
          by_cases same : told = connection <;>
            simp [withScript, Cast.script, Cast.connection, Table.get?_insert, same]
  | disconnected told =>
      cases other with
      | binderOf asked =>
          rfl
      | connected connection =>
          by_cases same : told = connection <;>
            simp [withScript, Cast.script, Cast.connection, Table.get?_insert, same]
      | disconnected connection =>
          by_cases same : told = connection <;>
            simp [withScript, Cast.script, Cast.connection, Table.get?_insert, same]

/-- What a service hands out is no matter of scripts. -/
@[simp] theorem kind_withScript
    (service : ServiceId) :
    ((cast.withScript callback script).service service).kind =
      (cast.service service).kind := by
  cases callback with
  | binderOf asked =>
      by_cases same : asked = service <;>
        simp [withScript, Cast.service, Table.get?_insert, same]
  | _ =>
      rfl

/-- Whether a connection listens is no matter of scripts. -/
@[simp] theorem listens_withScript
    (connection : ConnectionId) :
    ((cast.withScript callback script).connection connection).listens =
      (cast.connection connection).listens := by
  cases callback with
  | binderOf asked =>
      rfl
  | connected told =>
      by_cases same : told = connection <;>
        simp [withScript, Cast.connection, Table.get?_insert, same]
  | disconnected told =>
      by_cases same : told = connection <;>
        simp [withScript, Cast.connection, Table.get?_insert, same]

variable {cast callback}

theorem turnsLeft_eq :
    cast.turnsLeft =
      (cast.services.total fun role => role.onBinder.length) +
        cast.connections.total fun role =>
          role.onConnected.length + role.onDisconnected.length := by
  rw [turnsLeft, ← List.sum_eq_foldl, List.sum_append]
  rfl

/-- A service that has turns left has a role. -/
theorem service_of_onBinder
    {service : ServiceId}
    {turn : Turn}
    {rest : Script}
    (left : (cast.service service).onBinder = turn :: rest) :
    cast.services.get? service = some (cast.service service) := by
  cases found : cast.services.get? service with
  | some role =>
      simp [Cast.service, found]
  | none =>
      simp [Cast.service, found] at left

/-- A connection with a role of its own has one. -/
theorem connection_of_ne
    {connection : ConnectionId}
    (hasRole : cast.connection connection ≠ {}) :
    cast.connections.get? connection = some (cast.connection connection) := by
  cases found : cast.connections.get? connection with
  | some role =>
      simp [Cast.connection, found]
  | none =>
      simp [Cast.connection, found] at hasRole

/-- A turn that was taken is not left any more. -/
theorem turnsLeft_withScript
    {turn : Turn}
    {rest : Script}
    (left : cast.script callback = turn :: rest) :
    (cast.withScript callback rest).turnsLeft + 1 = cast.turnsLeft := by
  rw [turnsLeft_eq, turnsLeft_eq]
  cases callback with
  | binderOf service =>
      have found := service_of_onBinder left
      have changed :=
        Table.total_insert found (fun role => role.onBinder.length)
          { cast.service service with onBinder := rest }
      have length : (cast.service service).onBinder.length = rest.length + 1 :=
        congrArg List.length left
      simp only [withScript]
      dsimp only at changed
      omega
  | connected connection =>
      have found : cast.connections.get? connection = some (cast.connection connection) :=
        connection_of_ne fun isDefault => by simp [Cast.script, isDefault] at left
      have changed :=
        Table.total_insert found
          (fun role => role.onConnected.length + role.onDisconnected.length)
          { cast.connection connection with onConnected := rest }
      have length : (cast.connection connection).onConnected.length = rest.length + 1 :=
        congrArg List.length left
      simp only [withScript]
      dsimp only at changed
      omega
  | disconnected connection =>
      have found : cast.connections.get? connection = some (cast.connection connection) :=
        connection_of_ne fun isDefault => by simp [Cast.script, isDefault] at left
      have changed :=
        Table.total_insert found
          (fun role => role.onConnected.length + role.onDisconnected.length)
          { cast.connection connection with onDisconnected := rest }
      have length : (cast.connection connection).onDisconnected.length = rest.length + 1 :=
        congrArg List.length left
      simp only [withScript]
      dsimp only at changed
      omega

/-- The turn that is taken is the first one, or empty where none is left. -/
theorem takeTurn_fst
    (cast : Cast)
    (callback : Callback) :
    (cast.takeTurn callback).1 = (cast.script callback).getD 0 [] := by
  unfold takeTurn
  cases cast.script callback <;> rfl

/-- Taking a turn leaves the rest of its script, and all of the others. -/
theorem script_takeTurn
    (cast : Cast)
    (callback other : Callback) :
    (cast.takeTurn callback).2.script other =
      if callback = other then (cast.script other).tail else cast.script other := by
  unfold takeTurn
  cases left : cast.script callback with
  | nil =>
      by_cases same : callback = other
      · subst same
        simp [left]
      · simp [same]
  | cons turn rest =>
      rw [script_withScript]
      by_cases same : callback = other
      · subst same
        simp [left]
      · simp [same]

@[simp] theorem kind_takeTurn
    (cast : Cast)
    (callback : Callback)
    (service : ServiceId) :
    ((cast.takeTurn callback).2.service service).kind = (cast.service service).kind := by
  unfold takeTurn
  cases cast.script callback <;> simp

@[simp] theorem listens_takeTurn
    (cast : Cast)
    (callback : Callback)
    (connection : ConnectionId) :
    ((cast.takeTurn callback).2.connection connection).listens =
      (cast.connection connection).listens := by
  unfold takeTurn
  cases cast.script callback <;> simp

/-- Either there was no turn to take, or there is one less now. -/
theorem turnsLeft_takeTurn
    (cast : Cast)
    (callback : Callback) :
    cast.takeTurn callback = ([], cast) ∨
      (cast.takeTurn callback).2.turnsLeft + 1 = cast.turnsLeft := by
  unfold takeTurn
  cases left : cast.script callback with
  | nil =>
      exact .inl rfl
  | cons turn rest =>
      exact .inr (turnsLeft_withScript left)

end PlatformDouble.Cast
