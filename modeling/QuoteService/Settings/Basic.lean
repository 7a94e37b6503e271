import QuoteService.Settings.Source

/-!
# Settings

* `ServiceSettings.read`, `ClientSettings.read`: the settings of a source, or the faults of its
  fields in the order in which fields are declared, and then of arguments that no field takes.
-/

namespace QuoteService

open QuoteService.Settings

/-- The settings of the service. -/
structure ServiceSettings where
  logLevel : Text
  databaseUrl : Text
  host : Text
  httpPort : Int
  httpsPort : Int
  sslKey : Text
  sslCerts : Text
  jwtSigningKey : Text
  publicHost : Text
  deriving DecidableEq

/-- The names of the settings of the service. -/
def ServiceSettings.names : List String :=
  ["log_level", "database_url", "host", "http_port", "https_port", "ssl_key", "ssl_certs",
   "jwt_signing_key", "public_host"]

/-- The settings of the service. -/
def ServiceSettings.read (s : Source) : Except (List FieldFault) ServiceSettings :=
  let logLevel := s.text "log_level" "INFO"
  let databaseUrl := s.text "database_url" "sqlite+aiosqlite:////fortune-data/fortune-api.db"
  let host := s.text "host" "0.0.0.0"
  let httpPort := s.whole "http_port" 80
  let httpsPort := s.whole "https_port" 443
  let sslKey := s.text "ssl_key" ""
  let sslCerts := s.text "ssl_certs" ""
  let jwtSigningKey := s.text "jwt_signing_key" ""
  let publicHost := s.text "public_host" "localhost"
  let faults := faultOf "log_level" logLevel ++ faultOf "database_url" databaseUrl ++
    faultOf "host" host ++ faultOf "http_port" httpPort ++ faultOf "https_port" httpsPort ++
    faultOf "ssl_key" sslKey ++ faultOf "ssl_certs" sslCerts ++
    faultOf "jwt_signing_key" jwtSigningKey ++ faultOf "public_host" publicHost ++
    s.unknown names
  if faults = [] then
    .ok ⟨logLevel.value, databaseUrl.value, host.value, httpPort.value, httpsPort.value,
      sslKey.value, sslCerts.value, jwtSigningKey.value, publicHost.value⟩
  else .error faults

/-- The settings of a client; times are in milliseconds. -/
structure ClientSettings where
  url : Text
  connectTimeout : Int
  readTimeout : Int
  writeTimeout : Int
  sslCerts : Text
  deriving DecidableEq

/-- The names of the settings of a client. -/
def ClientSettings.names : List String :=
  ["url", "connect_timeout", "read_timeout", "write_timeout", "ssl_certs"]

/-- The settings of a client. -/
def ClientSettings.read (s : Source) : Except (List FieldFault) ClientSettings :=
  let url := s.text "url" "http://localhost"
  let connectTimeout := s.whole "connect_timeout" 10000
  let readTimeout := s.whole "read_timeout" 10000
  let writeTimeout := s.whole "write_timeout" 10000
  let sslCerts := s.text "ssl_certs" ""
  let faults := faultOf "url" url ++ faultOf "connect_timeout" connectTimeout ++
    faultOf "read_timeout" readTimeout ++ faultOf "write_timeout" writeTimeout ++
    faultOf "ssl_certs" sslCerts ++ s.unknown names
  if faults = [] then
    .ok ⟨url.value, connectTimeout.value, readTimeout.value, writeTimeout.value, sslCerts.value⟩
  else .error faults

end QuoteService
