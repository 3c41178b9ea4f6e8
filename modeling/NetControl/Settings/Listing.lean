import NetControl.Settings.Config
import NetControl.Yaml.Printer

/-!
The listing of a configuration: a YAML mapping with every setting.
-/

namespace NetControl.Settings

/-- A configuration as a YAML mapping. -/
def Config.listing (c : Config) : String :=
  Yaml.entry "netd_socket" c.controlSocket
    ++ Yaml.entry "dnsproxy_socket" c.lookupSocket
    ++ Yaml.entry "tether_daemon_path" c.daemonPath
    ++ Yaml.entry "ipv4_forwarding_path" c.ipv4Switch
    ++ Yaml.entry "ipv6_forwarding_path" c.ipv6Switch
    ++ Yaml.entry "ipv6_conf_root" c.knobRoot
    ++ Yaml.entry "boot_mode" c.bootMode
    ++ Yaml.numberEntry "max_concurrent_queries" c.maxLookups.toNat
    ++ "termination_grace_period:\n"
    ++ Yaml.numberEntry "  secs" c.gracePeriod.seconds
    ++ Yaml.numberEntry "  nanos" c.gracePeriod.fraction
    ++ Yaml.numberEntry "num_worker_threads" c.workers.toNat

end NetControl.Settings
