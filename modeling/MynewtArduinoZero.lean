import MynewtArduinoZero.Arduino.ArduinoTest
import MynewtArduinoZero.Arduino.SetDevice
import MynewtArduinoZero.Arduino.Shell
import MynewtArduinoZero.Espduino.Acceptance
import MynewtArduinoZero.Espduino.Bounds
import MynewtArduinoZero.Espduino.Burst
import MynewtArduinoZero.Espduino.Deadline
import MynewtArduinoZero.Espduino.Encoding
import MynewtArduinoZero.Espduino.Espduino
import MynewtArduinoZero.Espduino.Fifo
import MynewtArduinoZero.Espduino.Link
import MynewtArduinoZero.Espduino.Packet
import MynewtArduinoZero.Espduino.Request
import MynewtArduinoZero.Espduino.Rest
import MynewtArduinoZero.Espduino.RingBuf
import MynewtArduinoZero.Espduino.Transmit
import MynewtArduinoZero.Espduino.TransmitSide
import MynewtArduinoZero.Flash.Atomicity
import MynewtArduinoZero.Flash.HalFlash
import MynewtArduinoZero.Flash.Nvm
import MynewtArduinoZero.Flash.Refinement
import MynewtArduinoZero.Flash.Update
import MynewtArduinoZero.Gpio.HalGpio
import MynewtArduinoZero.Gpio.Ownership
import MynewtArduinoZero.Gpio.Pins
import MynewtArduinoZero.I2c.Master
import MynewtArduinoZero.I2c.Transfer
import MynewtArduinoZero.Lib.Align
import MynewtArduinoZero.Lib.Cells
import MynewtArduinoZero.Lib.Checked
import MynewtArduinoZero.Lib.Checksum
import MynewtArduinoZero.Lib.Dialogue
import MynewtArduinoZero.Lib.Fair
import MynewtArduinoZero.Lib.Fifo
import MynewtArduinoZero.Lib.LittleEndian
import MynewtArduinoZero.Lib.Log
import MynewtArduinoZero.Lib.LongDivision
import MynewtArduinoZero.Lib.Monitor
import MynewtArduinoZero.Lib.Poll
import MynewtArduinoZero.Lib.Ring
import MynewtArduinoZero.Lib.Run
import MynewtArduinoZero.Lib.Serial
import MynewtArduinoZero.Lib.ShiftRegister
import MynewtArduinoZero.Lib.Slist
import MynewtArduinoZero.Lib.Stuffing
import MynewtArduinoZero.Lib.TailQueue
import MynewtArduinoZero.Sercom.Baud
import MynewtArduinoZero.Spi.Atomicity
import MynewtArduinoZero.Spi.Driver
import MynewtArduinoZero.Spi.HalSpi
import MynewtArduinoZero.Spi.Transfer
import MynewtArduinoZero.Spi.Wiring
import MynewtArduinoZero.Timer.Callbacks
import MynewtArduinoZero.Timer.Clock
import MynewtArduinoZero.Timer.Delay
import MynewtArduinoZero.Timer.Expiry
import MynewtArduinoZero.Timer.HalTimer
import MynewtArduinoZero.Timer.Lateness
import MynewtArduinoZero.Timer.Lifecycle
import MynewtArduinoZero.Timer.Order
import MynewtArduinoZero.Timer.Prescaler
import MynewtArduinoZero.Timer.Queue
import MynewtArduinoZero.Timer.System
import MynewtArduinoZero.Timer.Tc
import MynewtArduinoZero.Uart.Blocking
import MynewtArduinoZero.Uart.Duplex
import MynewtArduinoZero.Uart.HalUart
import MynewtArduinoZero.Uart.Lifecycle
import MynewtArduinoZero.Uart.Stage
import MynewtArduinoZero.Uart.Usart
import MynewtArduinoZero.Watchdog.HalWatchdog
import MynewtArduinoZero.Winc1500.Connect
import MynewtArduinoZero.Winc1500.Crc7
import MynewtArduinoZero.Winc1500.ErrorCodes
import MynewtArduinoZero.Winc1500.Exclusion
import MynewtArduinoZero.Winc1500.Hif
import MynewtArduinoZero.Winc1500.HostAwake
import MynewtArduinoZero.Winc1500.HostDeaf
import MynewtArduinoZero.Winc1500.HostInterface
import MynewtArduinoZero.Winc1500.HostMailbox
import MynewtArduinoZero.Winc1500.HostRequest
import MynewtArduinoZero.Winc1500.HostSend
import MynewtArduinoZero.Winc1500.Indexing
import MynewtArduinoZero.Winc1500.Integrity
import MynewtArduinoZero.Winc1500.Mbuf
import MynewtArduinoZero.Winc1500.MnSocket
import MynewtArduinoZero.Winc1500.NmBus
import MynewtArduinoZero.Winc1500.NmSpi
import MynewtArduinoZero.Winc1500.Polling
import MynewtArduinoZero.Winc1500.Receive
import MynewtArduinoZero.Winc1500.Requests
import MynewtArduinoZero.Winc1500.RxChain
import MynewtArduinoZero.Winc1500.RxQueue
import MynewtArduinoZero.Winc1500.Scan
import MynewtArduinoZero.Winc1500.Sendto
import MynewtArduinoZero.Winc1500.Slots
import MynewtArduinoZero.Winc1500.SockRx
import MynewtArduinoZero.Winc1500.Socket
import MynewtArduinoZero.Winc1500.SocketViews
import MynewtArduinoZero.Winc1500.SpiBound
import MynewtArduinoZero.Winc1500.SpiChip
import MynewtArduinoZero.Winc1500.SpiDriver
import MynewtArduinoZero.Winc1500.SpiFrame
import MynewtArduinoZero.Winc1500.SpiPackets
import MynewtArduinoZero.Winc1500.StartRx
import MynewtArduinoZero.Winc1500.StreamTx
import MynewtArduinoZero.Winc1500.SyncCall
import MynewtArduinoZero.Winc1500.Tables
