/-!
# Properties and variables

The keys that steer routing: properties of the naming environment, variables of the process, and
the places where configuration files and plugins are looked for.
-/

namespace NameRouting.Property

/-- The list of provider endpoints. -/
def providerUrl : String := "naming.provider.url"

/-- The prefixes of the packages that hold URL contexts. -/
def urlPackages : String := "naming.factory.url.pkgs"

/-- The names of the connections that endpoints were configured by in earlier times. -/
def connections : String := "remote.connections"

/-- What the properties of one connection start with. -/
def connectionPrefix : String := "remote.connection."

/-- What the options of all connections start with. -/
def allConnectionsPrefix : String := "remote.connectionprovider.create.options."

/-- The host of a connection. -/
def host : String := "host"

/-- The port of a connection. -/
def port : String := "port"

/-- The protocol of a connection. -/
def protocol : String := "protocol"

/-- Whether a connection is encrypted. -/
def encrypted : String := "ssl_enabled"

/-- What the options of one connection start with, after its name. -/
def optionPrefix : String := "connect.options."

/-- The protocol of a connection that is not encrypted. -/
def plainProtocol : String := "remote+http"

/-- The protocol of an encrypted connection. -/
def secureProtocol : String := "remote+https"

/-- The variable that names the level of logging. -/
def logLevel : String := "NAMING_LOG_LEVEL"

/-- The variable that names a configuration file. -/
def configFile : String := "NAMING_CONFIG"

/-- Where configuration files are looked for, in order. -/
def configPlaces : List String :=
  ["naming.yml", "naming.yaml", "~/.config/naming/naming.yml"]

/-- The group of entry points of provider plugins. -/
def providerGroup : String := "naming.providers"

/-- The group of entry points of context plugins. -/
def contextGroup : String := "naming.contexts"

end NameRouting.Property
