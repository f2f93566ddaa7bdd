import Readiness.Service.Basic
import Readiness.Settings.Report

/-!
This module contains the launch of the service: either its settings are refused and reported, or the server gets a
configuration and serves.
-/

namespace Readiness
namespace Launch

/-- What the server is told. Times are in whole seconds. -/
structure ServerConfig where
  host : String
  port : Int
  logLevel : String
  accessLog : Bool
  keepAlive : Int
  gracefulShutdown : Int
deriving DecidableEq, Repr

/-- Fractions of a second are rounded up. -/
def ServerConfig.ofSettings (c : Settings) : Except Double.IntegerError ServerConfig := do
  return {
    host := "0.0.0.0"
    port := c.port
    logLevel := c.logLevel.name
    accessLog := false
    keepAlive := ← c.idleTimeout.ceilToInt
    gracefulShutdown := ← c.shutdownWait.ceilToInt }

inductive Result where
  | refused (refusals : List Settings.Refusal)
  /-- The server ran, once, with this configuration. -/
  | served (service : Service) (config : ServerConfig)

namespace Result

def exitCode : Result → Nat
  | refused _ => 2
  | served .. => 0

end Result

/-- Launches the service with the settings that the sources give. -/
def launch (sources : Settings.Sources) : Except Double.IntegerError Result :=
  match Settings.resolve sources with
  | .error refusals => return .refused refusals
  | .ok c => return .served (← Service.ofSettings c false) (← ServerConfig.ofSettings c)

/-- The complaints about the file of variables. -/
def warnings (sources : Settings.Sources) : List String :=
  ((sources.file.map EnvFile.unreadableLines).getD []).map fun line =>
    "python-dotenv could not parse statement starting at line " ++ toString line

/-- What goes to the standard error stream. -/
def complaints (sources : Settings.Sources) : Result → List String
  | .refused refusals => warnings sources ++ Settings.report refusals
  | .served .. => warnings sources

def configuredRecord (logger : String) (config : ServerConfig) (c : Settings) : Log.Record where
  source := .structured
  logger
  level := .info
  event := "server_configured"
  fields := [
    ("addr", .str (config.host ++ ":" ++ toString config.port)),
    ("idle_timeout_s", .real c.idleTimeout),
    ("read_timeout_s", .real c.readTimeout),
    ("write_timeout_s", .real c.writeTimeout),
    ("shutdown_wait_s", .real c.shutdownWait)]

def completeRecord (logger : String) : Log.Record where
  source := .structured
  logger
  level := .info
  event := "shutdown_complete"
  fields := []

/-- The lines logged by a launch, under the given logger and around the run of the server. -/
def lines (logger : String) (start stop : Clock) : Result → List String
  | .refused _ => []
  | .served service config =>
    let registry := Service.registryOf service.settings
    registry.write (configuredRecord logger config service.settings) start.now
      ++ registry.write (completeRecord logger) stop.now

end Launch
end Readiness
