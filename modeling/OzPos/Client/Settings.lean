import OzPos.Client.Tables

namespace OzPos

/-- `char::is_whitespace`. -/
def isWhitespace (c : Char) : Bool :=
  let n := c.toNat
  (9 ≤ n && n ≤ 13) || n = 0x20 || n = 0x85 || n = 0xA0 || n = 0x1680 ||
    (0x2000 ≤ n && n ≤ 0x200A) || n = 0x2028 || n = 0x2029 || n = 0x202F || n = 0x205F ||
    n = 0x3000

def trimChars (text : List Char) : List Char :=
  ((text.dropWhile isWhitespace).reverse.dropWhile isWhitespace).reverse

/-- `str::trim`. -/
def trim (text : String) : String := String.ofList (trimChars text.toList)

def asciiLowercase (s : String) : String := String.ofList (s.toList.map Char.toLower)

def ignoreCaseEq (s t : String) : Bool := s.toList.map Char.toLower = t.toList.map Char.toLower

def secretKeyDenyList : List String :=
  ["sync_api_key", "sync.auth_token", "sync_terminal_secret", "pg_sync.password", "redis.url",
    "rate_sync.api_key", "lan_server.psk", "local_api.secret", "smtp_config", "license.api_key",
    "license.payload", "license.signature", "license.tenant_id", "license.phone",
    "stripe.api_key", "square.api_key", "midtrans.server_key"]

def syncTerminalIdKey : String := "sync_terminal_id"

def nonExportableDeviceKeys : List String :=
  [syncTerminalIdKey, "machine_id", "hardware_fingerprint"]

def peerNamedHazardKeys : List String :=
  ["sync_server_url", "sync_enabled", "pg_sync.host", "pg_sync.user", "pg_sync.dbname",
    "redis.cache_ttl"]

variable (key : String)

def normalisedCandidate : String :=
  String.ofList ((trimChars key.toList).map Char.toLower)

def isNonExportableSettingKey : Bool :=
  secretKeyDenyList.contains (normalisedCandidate key) ||
    nonExportableDeviceKeys.contains (normalisedCandidate key)

def isPeerNamedHazardKey : Bool :=
  peerNamedHazardKeys.contains (normalisedCandidate key)

def isManagerOwnedKey : Bool :=
  startsWith (normalisedCandidate key) "local_api." ||
    startsWith (normalisedCandidate key) "lan_server."

/-- `IngestPolicy::RemoteSync.admits`. -/
def remoteSyncAdmits : Bool :=
  !(isNonExportableSettingKey key || isManagerOwnedKey key || isPeerNamedHazardKey key)

namespace DomainTables

variable {κ : Type}

variable (d : DomainTables κ)

def setting? (key : String) : Option String :=
  (d.settings.find? key).map Setting.value

def setSetting (key value : String) (d : DomainTables κ) : DomainTables κ :=
  { d with settings := d.settings.upsert ⟨key, value⟩ }

def getSyncTerminalId : Option String :=
  (d.setting? syncTerminalIdKey).filter (fun id => id ≠ "")

/-- `COALESCE(MAX(version), 0) + 1` over the deltas of the key and terminal. -/
def nextDeltaVersion (key terminalId : String) : Int :=
  let versions := (d.settingUpdated.filter (fun row => row.key = key && row.terminalId = terminalId)).map
    SettingUpdated.version
  (versions.max?).getD 0 + 1

/-- The delta row; a version past `i64` fails, which is not fatal to the change. -/
def writeDelta (key value terminalId : String) (d : DomainTables κ) : DomainTables κ :=
  match checkedI64 (d.nextDeltaVersion key terminalId) with
  | some version =>
    { d with settingUpdated := d.settingUpdated ++ [⟨key, value, terminalId, version⟩] }
  | none => d

/-- `set_with_policy` under the remote policy, then the delta: a refused key changes nothing. -/
def applySettingsUpdate (key value terminalId : String) (d : DomainTables κ) : DomainTables κ :=
  if remoteSyncAdmits key then (d.setSetting key value).writeDelta key value terminalId else d

@[simp] theorem setting?_writeDelta (key value terminalId other : String) :
    (d.writeDelta key value terminalId).setting? other = d.setting? other := by
  unfold writeDelta
  split <;> rfl

@[simp] theorem setting?_setSetting (key value other : String) :
    (d.setSetting key value).setting? other = if key = other then some value else d.setting? other := by
  unfold setSetting setting?
  rw [Table.find?_upsert]
  by_cases h : key = other <;> simp [h]

end DomainTables

end OzPos
