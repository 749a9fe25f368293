import PkixNames.Der
import PkixNames.DNSID.Valid
import PkixNames.DNSID.Match
import PkixNames.IP.IPv4
import PkixNames.IP.IPv6
import PkixNames.IP.IPv6Bounds
import PkixNames.Constraints
import PkixNames.Search
import PkixNames.Certificate
import PkixNames.Hostname
import PkixNames.HostnameForms
