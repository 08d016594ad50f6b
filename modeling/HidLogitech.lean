import HidLogitech.Input
import HidLogitech.Hidpp
import HidLogitech.Wtp.Report
import HidLogitech.Wtp.Frame
import HidLogitech.Wtp.Run
import HidLogitech.Wtp.Device
import HidLogitech.Tm.Data
import HidLogitech.Tm.Fingers
import HidLogitech.Tm.Tracking
import HidLogitech.Tm.Buttons
import HidLogitech.Tm.Negotiation
import HidLogitech.Tm.Driver
import HidLogitech.Tm.Session
